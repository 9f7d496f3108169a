import HttpService.Proofs.Address.Authority
import HttpService.Proofs.Client.Phases

/-!
# The host that a session names

A session that is started by the text of a machine and a port and one that is started by an address are connected alike,
but they name the host in two ways. The first puts the text in front of a colon and the port, as it is; the second
writes the address.

* `ClientSession.start_eq_opened`, `ClientSession.startAddress_eq_opened` — what a session that was started names.
* `ClientSession.fills_opened` — a session names the same host in all requests that name none, as long as it is
  connected.
* `ClientSession.hosts_alike_iff` — the two ways agree exactly if the number of the machine has four bytes; otherwise
  only the second is an authority.
-/

namespace HttpService

namespace FieldValue

/-- The value is a text with this property. -/
def IsText (v : FieldValue) (P : String → Prop) : Prop := ∃ name, v.content = octets name ∧ P name

/-- The value passes as an authority. -/
def IsAuthority (v : FieldValue) : Prop :=
  v.IsText fun name => Target.splitAuthority name.toList = .ok (name.toList, [])

/-- The value is an authority of this machine and this port. -/
def Names (v : FieldValue) (ip : IpAddress) (port : UInt16) : Prop := v.IsText (Authority.Names · ip port)

variable {v w : FieldValue} {name name' : String}

/-- A field's value is made of the octets of its text. -/
theorem content_of_ofText? (h : ofText? name = some v) : v.content = octets name := by
  unfold ofText? ofOctets? at h
  split at h
  · exact (Option.some.inj h) ▸ rfl
  · cases h

/-- A value has one text at most, so a property of its text is one of the value. -/
theorem isText_iff (h : v.content = octets name) {P : String → Prop} : v.IsText P ↔ P name := by
  constructor
  · rintro ⟨name', hname', hP⟩
    rwa [octets_inj.mp (h.symm.trans hname')]
  · exact fun hP => ⟨name, h, hP⟩

theorem eq_iff (hv : v.content = octets name) (hw : w.content = octets name') : v = w ↔ name = name' := by
  rw [← octets_inj, ← hv, ← hw]
  cases v
  cases w
  exact FieldValue.mk.injEq .. ▸ Iff.rfl

end FieldValue

/-- The request with a host. -/
def Request.withHost (r : Request) (host : FieldValue) : Request := { r with fields := r.fields.insert .host host }

namespace ClientSession

variable {s : ClientSession Link} {host : FieldValue} {name : String}

/-! ## Starting -/

/-- Whichever of the addresses connects, the session names the host that it was given. -/
theorem connectFirst_eq_opened {last : Option Error} {addresses : List (Address × Id (Attempt Link))}
    (h : (s.connectFirst (m := Id) host name last addresses).2.2 = some (.ok ())) :
    ∃ link peer, (s.connectFirst (m := Id) host name last addresses).1 = s.opened link host peer := by
  induction addresses generalizing last with
  | nil => cases h
  | cons first rest ih =>
    obtain ⟨address, attempt⟩ := first
    cases attempt with
    | connected link => exact ⟨link, address, rfl⟩
    | failed cause => exact ih h
    | late => exact ih h
    | dropped => cases h

theorem connectAny_eq_opened {addresses : List (Address × Id (Attempt Link))}
    (h : (s.connectAny (m := Id) name addresses).2.2 = some (.ok ())) :
    ∃ host link peer, (s.connectAny (m := Id) name addresses).1 = s.opened link host peer ∧
      host.content = octets name := by
  unfold connectAny at h ⊢
  split at h
  next host hhost =>
    obtain ⟨link, peer, hopened⟩ := connectFirst_eq_opened h
    exact ⟨host, link, peer, hopened, FieldValue.content_of_ofText? hhost⟩
  next => cases h

/-- A session that was started by a host and a port names these. -/
theorem start_eq_opened {port : UInt16} {lookup : Lookup (Address × Attempt Link)}
    (h : (s.start (m := Id) name port lookup).2.2 = some (.ok ())) :
    ∃ host link peer, (s.start (m := Id) name port lookup).1 = new.opened link host peer ∧
      host.content = octets (authority name port) := by
  cases lookup with
  | found addresses =>
    cases addresses with
    | nil => cases h
    | cons first rest => exact connectAny_eq_opened h
  | failed cause => cases h
  | late => cases h
  | dropped => cases h

/-- A session that was started by an address names the address. -/
theorem startAddress_eq_opened {a : Address} {attempt : Attempt Link}
    (h : (s.startAddress (m := Id) a attempt).2.2 = some (.ok ())) :
    ∃ host link peer, (s.startAddress (m := Id) a attempt).1 = new.opened link host peer ∧
      host.content = octets a.text :=
  connectAny_eq_opened h

/-! ## Naming the host -/

/-- What a session does with requests that name no host: it takes the first one, and this one and all those that it
takes later get this host. -/
structure Fills (s : ClientSession Link) (host : FieldValue) : Prop where
  first : ∀ r : Request, r.fields.contains .host = false → ∃ link s', s.begin? r = .ok (link, r.withHost host, s')
  later : ∀ limits calls, (∀ c ∈ calls, ClientCall.isExchange c = true) → ∀ r : Request,
    r.fields.contains .host = false → ∀ link r' s',
      (ClientCall.performAll limits s calls).begin? r = .ok (link, r', s') → r' = r.withHost host

/-- A request without a host gets the session's. -/
theorem hosted_eq (hhost : s.host = some host) {r : Request} (hr : r.fields.contains .host = false) :
    s.hosted r = r.withHost host := by
  rw [hosted, hhost]
  simp only [hr]
  rfl

/-- The session names this host unless it has lost its connection. -/
def KeepsHost (s : ClientSession Link) (host : FieldValue) : Prop := s.host = some host ∨ s.phase = .disconnected

/-- A session that can take a request has its host. -/
theorem KeepsHost.of_ready (hs : s.KeepsHost host) (hready : s.phase = .ready) : s.host = some host := by
  rcases hs with hhost | hlost
  · exact hhost
  · rw [hready] at hlost
    cases hlost

/-- A submission does not change the host, but may lose the connection. -/
theorem KeepsHost.submitted {limits : Limits} {r : Request} {p : Patience} {o : Outcome Response}
    (hs : s.KeepsHost host) (h : Submitted limits s r p o) : o.1.KeepsHost host := by
  cases h with
  | refused => exact hs
  | lost => exact .inr rfl
  | answered hready =>
    unfold answered
    split
    · exact .inr rfl
    · exact .inl (hs.of_ready hready)
  | unfinished hready => exact .inl (hs.of_ready hready)

/-- So with any number of exchanges. -/
theorem KeepsHost.performAll (hs : s.KeepsHost host) (limits : Limits) {calls : List ClientCall}
    (hcalls : ∀ c ∈ calls, c.isExchange = true) : (ClientCall.performAll limits s calls).KeepsHost host := by
  induction calls generalizing s with
  | nil => exact hs
  | cons c calls ih =>
    obtain ⟨hc, hrest⟩ := List.forall_mem_cons.mp hcalls
    refine ih ?_ hrest
    rw [ClientCall.perform_of_isExchange hc]
    cases c.submission? with
    | none => exact hs
    | some x => exact hs.submitted (submitted_submit limits s x.1 x.2)

/-- **A session that was connected under a host names it** in every request that names none, after any exchanges. -/
theorem fills_opened (link : Link) (host : FieldValue) (peer : Address) : (new.opened link host peer).Fills host where
  first r hr := by
    have hbegin := begin?_of_ready (s := new.opened link host peer) rfl rfl r
    rw [hosted_eq rfl hr] at hbegin
    exact ⟨_, _, hbegin⟩
  later limits calls hcalls r hr link' r' s' hbegin := by
    have hkeeps : (new.opened link host peer).KeepsHost host := .inl rfl
    obtain ⟨_, hready, -, hbegun⟩ := eq_of_begin?_eq_ok hbegin
    have hhosted := hosted_eq ((hkeeps.performAll limits hcalls).of_ready hready) hr
    cases hbegun
    exact hhosted

/-- **Two ways to start, two hosts.** Let a session be started by the text of a machine and a port that is not 80, and
another one by the address. Each names one host in all requests that name none. The two are the same exactly if the
number of the machine has four bytes. If it has eight groups, what the first session names is no authority; what the
second one names always is, and it is one of that machine and that port unless it shows a zone. -/
theorem hosts_alike_iff (a : Address) (hport : a.port ≠ 80) (s₁ s₂ : ClientSession Link)
    {lookup : Lookup (Address × Attempt Link)} {attempt : Attempt Link}
    (hstart : (s₁.start (m := Id) a.ip.text a.port lookup).2.2 = some (.ok ()))
    (hstartAddress : (s₂.startAddress (m := Id) a attempt).2.2 = some (.ok ())) :
    ∃ named numbered : FieldValue,
      (s₁.start (m := Id) a.ip.text a.port lookup).1.Fills named ∧
      (s₂.startAddress (m := Id) a attempt).1.Fills numbered ∧
      (named = numbered ↔ a.ip.isFour = true) ∧
      ((named.IsAuthority ↔ a.ip.isFour = true) ∧ numbered.IsAuthority) ∧
      (named.Names a.ip a.port ↔ a.ip.isFour = true) ∧
      (numbered.Names a.ip a.port ↔ a.ip.isFour = true ∨ a.zone = 0) := by
  obtain ⟨named, link₁, peer₁, hopened₁, hnamed⟩ := start_eq_opened hstart
  obtain ⟨numbered, link₂, peer₂, hopened₂, hnumbered⟩ := startAddress_eq_opened hstartAddress
  -- Any port but the usual one is written behind the name, without brackets.
  have hname : (authority a.ip.text a.port).toList = Authority.beside a.ip.text.toList a.port := by
    rw [authority, if_neg hport, Authority.beside]
    simp [Decimal.text]
  rw [hopened₁, hopened₂]
  refine ⟨named, numbered, fills_opened link₁ named peer₁, fills_opened link₂ numbered peer₂, ?_, ⟨?_, ?_⟩, ?_, ?_⟩
  -- Both hosts are texts now, so each part is about the text of the address.
  · rw [FieldValue.eq_iff hnamed hnumbered, a.eq_text_iff hname]
  · rw [FieldValue.IsAuthority, FieldValue.isText_iff hnamed, a.ip.splitAuthority_beside_iff a.port hname]
  · rw [FieldValue.IsAuthority, FieldValue.isText_iff hnumbered]
    exact a.splitAuthority_text
  · rw [FieldValue.Names, FieldValue.isText_iff hnamed, a.ip.names_beside_iff a.port hname]
  · rw [FieldValue.Names, FieldValue.isText_iff hnumbered, a.names_text_iff]

/-- A connection on which nothing comes. -/
def silent : Link := ⟨[], ⟨[], []⟩⟩

/-- A machine with a number of four bytes, and one with eight groups. -/
def localFour : Address := ⟨.four 127 0 0 1, 8080, 0⟩

def localEight : Address := ⟨.eight ⟨#[0, 0, 0, 0, 0, 0, 0, 1], rfl⟩, 8080, 0⟩

/-- Starting by the text of the machine, which is found at the address. -/
def startedByName (a : Address) : Outcome Unit :=
  new.start (m := Id) a.ip.text a.port (.found [(a, .connected silent)])

def startedByAddress (a : Address) : Outcome Unit := new.startAddress (m := Id) a (.connected silent)

/-- For a machine with a number of four bytes the two ways to start agree, and name it. -/
theorem hosts_alike_iff_localFour :
    (startedByName localFour).2.2 = some (.ok ()) ∧ (startedByAddress localFour).2.2 = some (.ok ()) ∧
      ∃ host, (startedByName localFour).1.Fills host ∧ (startedByAddress localFour).1.Fills host ∧
        host.Names localFour.ip localFour.port := by
  have hname : (startedByName localFour).2.2 = some (.ok ()) := by rfl
  have haddress : (startedByAddress localFour).2.2 = some (.ok ()) := by rfl
  obtain ⟨named, numbered, hnamed, hnumbered, halike, -, hnames, -⟩ :=
    hosts_alike_iff localFour (by decide) new new hname haddress
  obtain rfl := halike.mpr rfl
  exact ⟨hname, haddress, named, hnamed, hnumbered, hnames.mpr rfl⟩

/-- The host that the first request gets. -/
def filledIn (s : ClientSession Link) : Option String :=
  match s.begin? ClientCall.rootRequest with
  | .ok (_, r, _) => (r.fields.get? .host).bind FieldValue.text?
  | .error _ => none

/-- Started by its text, a session names a machine of eight groups by what is no authority. -/
theorem hosts_differ_localEight :
    ((startedByName localEight).2.2 = some (.ok ()) ∧ (startedByAddress localEight).2.2 = some (.ok ())) ∧
      filledIn (startedByName localEight).1 = some "::1:8080" ∧
      filledIn (startedByAddress localEight).1 = some "[::1]:8080" ∧
      ∀ ip port, ¬ Authority.Names "::1:8080" ip port := by
  have hbad : Target.splitAuthority "::1:8080".toList = .error .badAuthority := by rfl
  refine ⟨⟨by rfl, by rfl⟩, by rfl, by rfl, fun ip port h => ?_⟩
  cases hbad.symm.trans h.valid

end ClientSession

end HttpService
