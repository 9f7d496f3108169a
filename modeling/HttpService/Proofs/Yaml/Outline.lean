import HttpService.Proofs.Yaml.Words

/-!
# The tokens of an outline

An outline is a list of lines, each a key behind its indentation with a value or with deeper lines below it. Its tokens
follow the indentation alone: `layout` closes what a line does not belong to and opens a mapping where a line is the
first of its depth.

* `Yaml.Lexer.run_key` — a bare word in front of a colon is a key, and may open a mapping.
* `Yaml.Lexer.run_value` — a bare word up to the end of its line is a value.
* `Yaml.Lexer.run_line`, `Yaml.Lexer.run_lines` — a line of an outline, and all its lines.
* `Yaml.tokens_outline` — the tokens of its text.
-/

namespace HttpService.Yaml

/-! ## Indentation -/

/-- The mapping that a line opens, if no mapping of its depth is open. -/
def opening (column : Nat) (floors : List Nat) : List Token :=
  if floors.headD 0 ≤ column then [.blockMapping] else []

/-- The floors behind that. -/
def opened (column : Nat) (floors : List Nat) : List Nat :=
  if floors.headD 0 ≤ column then (column + 1) :: floors else floors

/-- The floors that a token at a column leaves open. -/
def leftOpen (column : Nat) (floors : List Nat) : List Nat := floors.dropWhile (column + 1 < ·)

/-- The ends of the others. -/
def closing (least : Nat) (floors : List Nat) : List Token :=
  List.replicate (floors.takeWhile (least < ·)).length .blockEnd

/-- Leaving deeper blocks brings the innermost one to this column or further out. -/
theorem headD_leftOpen (column : Nat) (floors : List Nat) : (leftOpen column floors).headD 0 ≤ column + 1 := by
  unfold leftOpen
  induction floors with
  | nil => exact Nat.zero_le _
  | cons n floors ih =>
    rw [List.dropWhile_cons]
    split
    next => exact ih
    next h => exact Nat.not_lt.mp (by simpa using h)

/-- Opening a block, or going on in the one that is open, brings the innermost one to this column. -/
theorem headD_opened {column : Nat} {floors : List Nat} (h : floors.headD 0 ≤ column + 1) :
    (opened column floors).headD 0 = column + 1 := by
  unfold opened
  split
  next => rfl
  next hlt => omega

/-! ## Steps -/

/-- The place is in the line of the candidate and not too far behind it. -/
def Candidate.Near (k : Candidate) (m : Mark) : Prop := m.line = k.mark.line ∧ m.octets ≤ k.mark.octets + keyReach

namespace Lexer

/-- The lexer goes token by token. -/
theorem run_step {l l₁ l₂ : Lexer} {c : Cell} {cs : List Cell} (hadvance : l.advance = some l₁)
    (hrest : l₁.rest = c :: cs) (htoken : l₁.token c cs = some l₂) (fuel : Nat) : run (fuel + 1) l = run fuel l₂ := by
  rw [run, hadvance]
  simp only [Option.bind_eq_bind, Option.bind_some, hrest, htoken]

/-- What may be a key stays so where it has not lapsed. -/
theorem checkKeys_of_near {l : Lexer} {c : Cell} {cs : List Cell} (hrest : l.rest = c :: cs) (houter : l.outerKeys = [])
    (hkey : ∀ k ∈ l.key, k.Near c.mark) :
    l.checkKeys = some l := by
  obtain ⟨rest, tokens, count, floors, allowed, key, outer⟩ := l
  subst hrest houter
  cases key with
  | none => rfl
  | some k =>
    obtain ⟨hline, hoctets⟩ := hkey k rfl
    have hnear : Candidate.check (some c.mark) k = some (some k) := by
      simp [Candidate.check, hline, hoctets]
    unfold checkKeys
    simp [hnear]

/-- **Going to the next token** goes past blanks and out of the mappings that are deeper. -/
theorem advance_eq {l : Lexer} {allowed : Bool} {c : Cell} {cs : List Cell} (houter : l.outerKeys = [])
    (hskip : skipSpace false false l.keyAllowed l.rest = (allowed, c :: cs))
    (hkey : ∀ k ∈ l.key, k.Near c.mark) :
    l.advance = some ⟨c :: cs, closing (c.mark.column + 1) l.floors ++ l.tokens,
      l.count + (closing (c.mark.column + 1) l.floors).length, leftOpen c.mark.column l.floors, allowed, l.key,
      []⟩ := by
  obtain ⟨rest, tokens, count, floors, allowed', key, outer⟩ := l
  subst houter
  have hdrop : floors.drop (floors.takeWhile (c.mark.column + 1 < ·)).length = leftOpen c.mark.column floors := by
    have hsplit := List.takeWhile_append_dropWhile (p := (c.mark.column + 1 < ·)) (l := floors)
    calc floors.drop _ = (floors.takeWhile _ ++ floors.dropWhile _).drop _ := by rw [hsplit]
      _ = leftOpen c.mark.column floors := List.drop_left
  have hcheck : checkKeys ⟨c :: cs, tokens, count, floors, allowed, key, []⟩ = some _ := checkKeys_of_near rfl rfl hkey
  simp only [advance, inFlow, List.isEmpty_nil, Bool.not_true, hskip, Option.bind_eq_bind, hcheck, Option.bind_some]
  simp [closeTo, inFlow, closing, hdrop]

/-- It leaves nothing where the token is deeper than all that is open. -/
theorem advance_deeper {l : Lexer} {allowed : Bool} {c : Cell} {cs : List Cell} (houter : l.outerKeys = [])
    (hskip : skipSpace false false l.keyAllowed l.rest = (allowed, c :: cs))
    (hkey : ∀ k ∈ l.key, k.Near c.mark)
    (hfloor : l.floors.headD 0 ≤ c.mark.column + 1) :
    l.advance = some ⟨c :: cs, l.tokens, l.count, l.floors, allowed, l.key, []⟩ := by
  have hnone : closing (c.mark.column + 1) l.floors = [] ∧ leftOpen c.mark.column l.floors = l.floors := by
    unfold closing leftOpen
    cases hfloors : l.floors with
    | nil => exact ⟨rfl, rfl⟩
    | cons n floors =>
      rw [hfloors, List.headD_cons] at hfloor
      rw [List.takeWhile_cons_of_neg (by simpa using hfloor), List.dropWhile_cons_of_neg (by simpa using hfloor)]
      exact ⟨rfl, rfl⟩
  rw [advance_eq houter hskip hkey, hnone.1, hnone.2]
  rfl

/-- Blanks and indentation in front make no difference. -/
theorem run_skip {allowed allowed' : Bool} {rest rest' : List Cell}
    (h : skipSpace false false allowed rest = skipSpace false false allowed' rest') (tokens : List Token) (count : Nat)
    (floors : List Nat) (fuel : Nat) :
    run fuel ⟨rest, tokens, count, floors, allowed, none, []⟩ =
      run fuel ⟨rest', tokens, count, floors, allowed', none, []⟩ := by
  cases fuel with
  | zero => rfl
  | succ fuel =>
    have hadvance : advance ⟨rest, tokens, count, floors, allowed, none, []⟩ =
        advance ⟨rest', tokens, count, floors, allowed', none, []⟩ := by
      simp only [advance, inFlow, List.isEmpty_nil, Bool.not_true, h]
    rw [run, run, hadvance]

/-! ## Keys and values -/

/-- A bare word begins with a bare character, which decides how it is read. -/
theorem cons_place {w : List Char} (hw : Bare w) (m : Mark) (rest : List Cell) :
    ∃ c cs, place m w ++ rest = ⟨c, m⟩ :: cs ∧ isBare c = true := by
  obtain ⟨hne, hbare⟩ := hw
  cases w with
  | nil => exact absurd rfl hne
  | cons c w => exact ⟨c, _, rfl, hbare c List.mem_cons_self⟩

/-- A word in front of a colon, where a key may start. -/
theorem plain_key {w : List Char} (hw : Bare w) (m m' : Mark) {rest : List Cell} (hends : endsWord rest = true)
    (tokens : List Token) (count : Nat) (floors : List Nat) :
    plain ⟨place m w ++ ⟨':', m'⟩ :: rest, tokens, count, floors, true, none, []⟩ m =
      some ⟨⟨':', m'⟩ :: rest, .scalar .plain (String.ofList w) :: tokens, count + 1, floors, false,
        some ⟨count, m, floors.headD 0 == m.column + 1⟩, []⟩ := by
  have hscalar := (plainFrom_bare hw.2 (floors.headD 0) [] m (⟨':', m'⟩ :: rest)).trans (plainFrom_colon _ _ m' hends)
  rw [List.append_nil] at hscalar
  have hresult : (Folded.word w.reverse).result = String.ofList w := congrArg String.ofList (List.reverse_reverse w)
  simp only [plain, saveKey, dropKey, inFlow, floor, Option.any_none, List.isEmpty_nil, Bool.not_true, Bool.not_false,
    Bool.true_and, Bool.false_eq_true, if_true, if_false, Option.bind_eq_bind, Option.bind_some, Option.pure_def]
  rw [show Folded.empty = .word [] from rfl, hscalar, Option.bind_some, hresult]
  rfl

/-- A colon is one between a key and its value where a blank or the end comes behind it. -/
theorem token_colon {l : Lexer} {m : Mark} {cs : List Cell} (hl : l.rest = ⟨':', m⟩ :: cs) (houter : l.outerKeys = [])
    (hends : endsWord cs = true) : l.token ⟨':', m⟩ cs = l.colon m cs := by
  have hdash : isMarker '-' (⟨':', m⟩ :: cs) = false := isMarker_of_ne cs (show ':' ≠ '-' by decide)
  have hdot : isMarker '.' (⟨':', m⟩ :: cs) = false := isMarker_of_ne cs (show ':' ≠ '.' by decide)
  unfold token
  rw [hl, hdash, hdot, hends]
  simp [inFlow, houter]

/-- **The colon puts what announces the key in front of it**, if it stands in the same line. -/
theorem run_colon {m m' : Mark} {rest : List Cell} {floors : List Nat} (hends : endsWord rest = true)
    (hnear : m'.line = m.line ∧ m'.octets ≤ m.octets + keyReach) (hfloor : floors.headD 0 ≤ m'.column + 1)
    (required : Bool) (t : Token) (tokens : List Token) (count fuel : Nat) :
    run (fuel + 1) ⟨⟨':', m'⟩ :: rest, t :: tokens, count + 1, floors, false, some ⟨count, m, required⟩, []⟩ =
      run fuel ⟨rest, .value :: t :: .key :: (opening m.column floors ++ tokens),
        count + 3 + (opening m.column floors).length, opened m.column floors, false, none, []⟩ := by
  -- A colon is no blank, so nothing is skipped.
  have hskip : skipSpace false false false (⟨':', m'⟩ :: rest) = (false, ⟨':', m'⟩ :: rest) := by
    simp [skipSpace, isBreak, isOrderMark]
  have hcolon :
      colon ⟨⟨':', m'⟩ :: rest, t :: tokens, count + 1, floors, false, some ⟨count, m, required⟩, []⟩ m' rest =
        some ⟨rest, .value :: t :: .key :: (opening m.column floors ++ tokens),
          count + 3 + (opening m.column floors).length, opened m.column floors, false, none, []⟩ := by
    have hlater : count + 1 - count = 1 := by omega
    have hlater' : count + 1 + 1 - count = 2 := by omega
    -- Where the mapping of this depth is not open yet, its token is put in front of the key.
    unfold opening opened
    split
    next h =>
      rw [List.headD_eq_head?_getD] at h
      simp [colon, insert, openBlock, emitTo, emit, inFlow, floor, hlater, hlater', h]
    next h =>
      rw [List.headD_eq_head?_getD] at h
      simp [colon, insert, openBlock, emitTo, emit, inFlow, floor, hlater, h]
  refine run_step (advance_deeper rfl hskip ?_ hfloor) rfl ((token_colon rfl rfl hends).trans hcolon) fuel
  rintro k ⟨⟩
  exact hnear

/-- **A bare word in front of a colon is a key.** -/
theorem run_key {w : List Char} (hw : Bare w) (hreach : w.length ≤ keyReach) {m : Mark} {allowed : Bool}
    {cells : List Cell} {rest : List Char} (hends : endsWord (place (m.right (w.length + 1)) rest) = true)
    (hskip : skipSpace false false allowed cells = skipSpace false false true (place m (w ++ ':' :: rest)))
    (tokens : List Token) (count : Nat) (floors : List Nat) (fuel : Nat) :
    ∃ count', run (fuel + 2) ⟨cells, tokens, count, floors, allowed, none, []⟩ =
      run fuel ⟨place (m.right (w.length + 1)) rest, .value :: .scalar .plain (String.ofList w) :: .key ::
        (opening m.column (leftOpen m.column floors) ++ (closing (m.column + 1) floors ++ tokens)), count',
        opened m.column (leftOpen m.column floors), false, none, []⟩ := by
  have hplace : place m (w ++ ':' :: rest) =
      place m w ++ ⟨':', m.right w.length⟩ :: place (m.right (w.length + 1)) rest := by
    rw [place_append m _ fun c hc => isNarrow_of_isBare (hw.2 c hc), place, Mark.next_of_isNarrow _ (by decide),
      Mark.right_right]
  obtain ⟨c, cs, hcells, hc⟩ := cons_place hw m (⟨':', m.right w.length⟩ :: place (m.right (w.length + 1)) rest)
  have hfront : skipSpace false false allowed cells = (true, ⟨c, m⟩ :: cs) := by
    rw [hskip, hplace, hcells, skipSpace_of_isBare _ _ hc]
  -- First the word, of which only the colon tells that it is a key.
  have hword := plain_key hw m (m.right w.length) hends (closing (m.column + 1) floors ++ tokens)
    (count + (closing (m.column + 1) floors).length) (leftOpen m.column floors)
  rw [hcells] at hword
  have hfirst : run (fuel + 2) ⟨cells, tokens, count, floors, allowed, none, []⟩ = _ :=
    run_step (advance_eq rfl hfront (by simp)) rfl ((token_bare rfl hc).trans hword) (fuel + 1)
  have hnear : (m.right w.length).line = m.line ∧ (m.right w.length).octets ≤ m.octets + keyReach :=
    ⟨rfl, Nat.add_le_add_left hreach _⟩
  have hdeeper : (leftOpen m.column floors).headD 0 ≤ (m.right w.length).column + 1 :=
    Nat.le_trans (headD_leftOpen m.column floors) (Nat.add_le_add_right (Nat.le_add_right _ _) 1)
  have hsecond := run_colon hends hnear hdeeper ((leftOpen m.column floors).headD 0 == m.column + 1)
    (.scalar .plain (String.ofList w)) (closing (m.column + 1) floors ++ tokens)
    (count + (closing (m.column + 1) floors).length) fuel
  exact ⟨_, hfirst.trans hsecond⟩

/-- **A bare word up to the end of its line is a value** if the next line is no deeper than its key. -/
theorem run_value {w : List Char} (hw : Bare w) {m : Mark} {n : Nat} {next : List Char} (hnext : StartsBare next)
    {floors : List Nat} (hfloor : floors.headD 0 ≤ m.column + 1) (hindent : next ≠ [] → n < floors.headD 0)
    (tokens : List Token) (count fuel : Nat) :
    ∃ count', run (fuel + 1) ⟨place m (' ' :: (w ++ '\n' :: (List.replicate n ' ' ++ next))), tokens, count, floors,
        false, none, []⟩ =
      run fuel ⟨place ((Mark.mk (m.line + 1) 0 0).right n) next, .scalar .plain (String.ofList w) :: tokens, count',
        floors, true, none, []⟩ := by
  have hplace : place (m.right 1) (w ++ '\n' :: (List.replicate n ' ' ++ next)) = place (m.right 1) w ++
      ⟨'\n', (m.right 1).right w.length⟩ :: place ⟨m.line + 1, 0, 0⟩ (List.replicate n ' ' ++ next) := by
    rw [place_append _ _ fun c hc => isNarrow_of_isBare (hw.2 c hc), place]
    rfl
  obtain ⟨c, cs, hcells, hc⟩ := cons_place hw (m.right 1)
    (⟨'\n', (m.right 1).right w.length⟩ :: place ⟨m.line + 1, 0, 0⟩ (List.replicate n ' ' ++ next))
  -- The blank behind the colon is skipped, and the word begins.
  have hfront : skipSpace false false false (place m (' ' :: (w ++ '\n' :: (List.replicate n ' ' ++ next)))) =
      (false, ⟨c, m.right 1⟩ :: cs) := by
    rw [← skipSpace_of_isBare false cs hc, ← hcells, ← hplace]
    exact skipSpace_indent false m 1 _
  -- The word goes on to the end of its line, and the next line is no part of it.
  have hscalar := (plainFrom_bare hw.2 (floors.headD 0) [] (m.right 1) _).trans
    (plainFrom_lineEnd _ _ ((m.right 1).right w.length) ⟨m.line + 1, 0, 0⟩ n hnext
      (by simpa [Mark.right] using hindent))
  rw [List.append_nil, hcells] at hscalar
  have hresult : ((Folded.word w.reverse).lineEnd '\n').result = String.ofList w :=
    congrArg String.ofList (List.reverse_reverse w)
  have hplain : plain ⟨⟨c, m.right 1⟩ :: cs, tokens, count, floors, false, none, []⟩ (m.right 1) =
      some ⟨place ((Mark.mk (m.line + 1) 0 0).right n) next, .scalar .plain (String.ofList w) :: tokens, count + 1,
        floors, true, none, []⟩ := by
    simp only [plain, saveKey, inFlow, floor, List.isEmpty_nil, Bool.not_true, Bool.false_eq_true, if_false,
      Option.bind_eq_bind, Option.bind_some, Option.pure_def]
    rw [show Folded.empty = .word [] from rfl, hscalar, Option.bind_some, hresult]
    rfl
  have hdeeper : floors.headD 0 ≤ (m.right 1).column + 1 := Nat.le_succ_of_le hfloor
  exact ⟨_, run_step (advance_deeper rfl hfront (by simp) hdeeper) rfl ((token_bare rfl hc).trans hplain) fuel⟩

end Lexer

/-! ## Lines -/

/-- A line: a key, and its value unless deeper lines follow. -/
structure Line where
  depth : Nat
  key : List Char
  value : Option (List Char)

namespace Line

/-- The line without its indentation. -/
def content (l : Line) : List Char := l.key ++ ':' :: ((l.value.elim [] fun v => ' ' :: v) ++ ['\n'])

/-- The characters of the line. -/
def chars (l : Line) : List Char := List.replicate l.depth ' ' ++ l.content

/-- Whether key and value are bare words and the colon is close enough to the start of the key. -/
structure Sound (l : Line) : Prop where
  key : Bare l.key
  reach : l.key.length ≤ keyReach
  value : ∀ v ∈ l.value, Bare v

/-- Whether a line may stand below another one: nothing is deeper than a line with a value. -/
def Follows (l l' : Line) : Prop := l.value.isSome = true → l'.depth ≤ l.depth

/-- What a line leaves open, with the mapping that it opens. -/
def floors (l : Line) (fs : List Nat) : List Nat := opened l.depth (leftOpen l.depth fs)

/-- The tokens of a line below the mappings that are open. -/
def tokens (l : Line) (fs : List Nat) : List Token :=
  closing (l.depth + 1) fs ++ opening l.depth (leftOpen l.depth fs) ++
    [.key, .scalar .plain (String.ofList l.key), .value] ++
    (l.value.map fun v => .scalar .plain (String.ofList v)).toList

/-- How many steps a line takes. -/
def steps (l : Line) : Nat := if l.value.isSome then 3 else 2

theorem headD_floors (l : Line) (fs : List Nat) : (l.floors fs).headD 0 = l.depth + 1 :=
  headD_opened (headD_leftOpen l.depth fs)

end Line

/-- An outline: nothing is deeper than a line with a value that stands above it. -/
inductive Outline : List Line → Prop
  | nil : Outline []
  | cons {l : Line} {ls : List Line} (sound : l.Sound) (follows : ∀ l' ∈ ls.head?, l.Follows l') (rest : Outline ls) :
    Outline (l :: ls)

/-- The tokens of some lines below the mappings that are open. -/
def layout (fs : List Nat) : List Line → List Token
  | [] => closing 0 fs
  | l :: ls => l.tokens fs ++ layout (l.floors fs) ls

/-- All tokens that close blocks are alike, so their order does not matter. -/
theorem reverse_closing (least : Nat) (floors : List Nat) : (closing least floors).reverse = closing least floors :=
  List.reverse_replicate

theorem reverse_opening (column : Nat) (floors : List Nat) :
    (opening column floors).reverse = opening column floors := by
  unfold opening
  split <;> rfl

theorem Bare.startsBare {w : List Char} (h : Bare w) (rest : List Char) : StartsBare (w ++ rest) := by
  obtain ⟨hne, hbare⟩ := h
  cases w with
  | nil => exact absurd rfl hne
  | cons c w =>
    rintro _ ⟨⟩
    exact hbare c List.mem_cons_self

/-- What follows a line is an indentation, and no deeper than a line with a value. -/
theorem Outline.exists_indent {l : Line} {ls : List Line} (h : Outline ls) (hfollows : ∀ l' ∈ ls.head?, l.Follows l') :
    ∃ n next, ls.flatMap Line.chars = List.replicate n ' ' ++ next ∧ StartsBare next ∧
      (l.value.isSome = true → next ≠ [] → n ≤ l.depth) := by
  cases h with
  | nil => exact ⟨0, [], rfl, nofun, fun _ h => absurd rfl h⟩
  | @cons l' ls hsound _ _ =>
    refine ⟨l'.depth, l'.content ++ ls.flatMap Line.chars, ?_, ?_, fun hvalue _ => hfollows l' rfl hvalue⟩
    · rw [List.flatMap_cons, Line.chars, List.append_assoc]
    · rw [Line.content, List.append_assoc]
      exact hsound.key.startsBare _

theorem Mark.right_zero (line n : Nat) : (Mark.mk line 0 0).right n = ⟨line, n, n⟩ := by
  simp only [Mark.right, Nat.zero_add]

/-- Behind the last line all mappings end. -/
theorem Lexer.run_nil (fuel : Nat) (tokens : List Token) (count : Nat) (floors : List Nat) :
    run (fuel + 1) ⟨[], tokens, count, floors, true, none, []⟩ = some (tokens.reverse ++ closing 0 floors) := by
  have hadvance : advance ⟨[], tokens, count, floors, true, none, []⟩ =
      some ⟨[], tokens, count, floors, true, none, []⟩ := rfl
  have hborder : border ⟨[], tokens, count, floors, true, none, []⟩ = some ⟨[], closing 0 floors ++ tokens,
      count + (floors.takeWhile (0 < ·)).length, floors.drop (floors.takeWhile (0 < ·)).length, false, none, []⟩ := rfl
  rw [run, hadvance]
  simp only [Option.bind_eq_bind, Option.bind_some, hborder, List.reverse_append, reverse_closing, Option.pure_def]

/-- **A line adds its tokens**, if what follows is an indentation that is no deeper than a line with a value. -/
theorem Lexer.run_line {l : Line} (hl : l.Sound) {n : Nat} {next : List Char} (hnext : StartsBare next)
    (hdepth : l.value.isSome = true → next ≠ [] → n ≤ l.depth) (line : Nat) (tokens : List Token) (count : Nat)
    (fs : List Nat) (fuel : Nat) :
    ∃ count', run (fuel + l.steps) ⟨place ⟨line, 0, 0⟩ (l.chars ++ (List.replicate n ' ' ++ next)), tokens, count, fs,
        true, none, []⟩ =
      run fuel ⟨place ⟨line + 1, 0, 0⟩ (List.replicate n ' ' ++ next), (l.tokens fs).reverse ++ tokens, count',
        l.floors fs, true, none, []⟩ := by
  have hindent : skipSpace false false true (place ⟨line, 0, 0⟩ (l.chars ++ (List.replicate n ' ' ++ next))) =
      skipSpace false false true (place ⟨line, l.depth, l.depth⟩ (l.content ++ (List.replicate n ' ' ++ next))) := by
    rw [Line.chars, List.append_assoc, skipSpace_indent, Mark.right_zero]
  have htokens : (l.tokens fs).reverse ++ tokens =
      (l.value.map fun v => .scalar .plain (String.ofList v)).toList ++ .value ::
        .scalar .plain (String.ofList l.key) :: .key ::
          (opening l.depth (leftOpen l.depth fs) ++ (closing (l.depth + 1) fs ++ tokens)) := by
    cases hvalue : l.value <;> simp [Line.tokens, hvalue, reverse_closing, reverse_opening]
  rw [htokens, Line.steps]
  cases hvalue : l.value with
  | none =>
    have hcontent : l.content ++ (List.replicate n ' ' ++ next) =
        l.key ++ ':' :: '\n' :: (List.replicate n ' ' ++ next) := by
      simp [Line.content, hvalue]
    obtain ⟨count', hkey⟩ := run_key hl.key hl.reach rfl (hindent.trans (by rw [hcontent])) tokens count fs fuel
    -- Behind the end of the line a key may start again.
    have hbreak : skipSpace false false false (place ((Mark.mk line l.depth l.depth).right (l.key.length + 1))
        ('\n' :: (List.replicate n ' ' ++ next))) =
        skipSpace false false true (place ⟨line + 1, 0, 0⟩ (List.replicate n ' ' ++ next)) := rfl
    exact ⟨count', hkey.trans (run_skip hbreak _ _ _ _)⟩
  | some v =>
    have hcontent : l.content ++ (List.replicate n ' ' ++ next) =
        l.key ++ ':' :: ' ' :: (v ++ '\n' :: (List.replicate n ' ' ++ next)) := by
      simp [Line.content, hvalue]
    obtain ⟨count', hkey⟩ := run_key hl.key hl.reach rfl (hindent.trans (by rw [hcontent])) tokens count fs (fuel + 1)
    have hfloor := l.headD_floors fs
    have hright : (l.floors fs).headD 0 ≤ l.depth + (l.key.length + 1) + 1 := by omega
    have hleft : next ≠ [] → n < (l.floors fs).headD 0 := fun hne =>
      hfloor ▸ Nat.lt_succ_of_le (hdepth (by rw [hvalue]; rfl) hne)
    obtain ⟨count'', hread⟩ := run_value (hl.value v hvalue)
      (m := (Mark.mk line l.depth l.depth).right (l.key.length + 1)) hnext hright hleft _ count' fuel
    -- The value goes on over the indentation of the next line, which makes no difference to what is read there.
    have hskip : skipSpace false false true (place ((Mark.mk (line + 1) 0 0).right n) next) =
        skipSpace false false true (place ⟨line + 1, 0, 0⟩ (List.replicate n ' ' ++ next)) := by
      rw [skipSpace_indent]
    exact ⟨count'', hkey.trans (hread.trans (run_skip hskip _ _ _ _))⟩

/-- **All lines of an outline add their tokens.** -/
theorem Lexer.run_lines {lines : List Line} (h : Outline lines) {fuel : Nat} (hfuel : 3 * lines.length < fuel)
    (line : Nat) (tokens : List Token) (count : Nat) (fs : List Nat) :
    run fuel ⟨place ⟨line, 0, 0⟩ (lines.flatMap Line.chars), tokens, count, fs, true, none, []⟩ =
      some (tokens.reverse ++ layout fs lines) := by
  -- From line to line the tokens and the open mappings vary, while a key may start and none has.
  induction h generalizing fuel line tokens count fs with
  | nil =>
    obtain ⟨fuel, rfl⟩ : ∃ k, fuel = k + 1 := ⟨fuel - 1, by omega⟩
    exact run_nil fuel tokens count fs
  | @cons l ls hsound hfollows hls ih =>
    have hsteps : l.steps ≤ 3 := by
      unfold Line.steps
      split <;> decide
    rw [List.length_cons] at hfuel
    obtain ⟨fuel, rfl⟩ : ∃ k, fuel = k + l.steps := ⟨fuel - l.steps, by omega⟩
    obtain ⟨n, next, hnext, hbare, hdepth⟩ := hls.exists_indent hfollows
    obtain ⟨count', hline⟩ := run_line hsound hbare hdepth line tokens count fs fuel
    rw [List.flatMap_cons, hnext, hline, ← hnext, ih (by omega), layout, List.reverse_append, List.reverse_reverse,
      List.append_assoc]

/-! ## Texts -/

/-- The characters that a document's text keeps as they are. -/
def isVerbatim (c : Char) : Bool := isAllowed c && c != '\r' && c != '\u0085'

/-- Text of such characters is read as it is, with each of them at its own place. -/
theorem source?_of_isVerbatim {cs : List Char} (h : ∀ c ∈ cs, isVerbatim c = true) :
    source? (String.ofList cs) = some (place ⟨0, 0, 0⟩ cs) := by
  have hallowed : cs.all isAllowed = true := List.all_eq_true.mpr fun c hc => by
    have := h c hc
    simp only [isVerbatim, Bool.and_eq_true] at this
    exact this.1.1
  -- Without carriage returns and the marks that count as line ends there is nothing to unify.
  have hunify : ∀ cs : List Char, (∀ c ∈ cs, isVerbatim c = true) → unifyBreaks cs = cs := by
    intro cs h
    induction cs with
    | nil => rfl
    | cons c cs ih =>
      obtain ⟨hc, hcs⟩ := List.forall_mem_cons.mp h
      simp only [isVerbatim, Bool.and_eq_true, bne_iff_ne, ne_eq] at hc
      have hnext : c.toNat ≠ 0x85 := fun hn => hc.2 (by rw [← Char.ofNat_toNat c, hn])
      rw [unifyBreaks]
      · simp [hc.1.2, hnext, ih hcs]
      · exact fun _ hr _ => hc.1.2 hr
  rw [source?, String.toList_ofList, if_pos hallowed, hunify cs h]

theorem isVerbatim_of_isBare {c : Char} (h : isBare c = true) : isVerbatim c = true := by
  obtain ⟨hallowed, -, -, -, -, hother⟩ := of_isBare h
  simp only [List.mem_cons, not_or] at hother
  simp [isVerbatim, hallowed, hother]

theorem Line.Sound.isVerbatim {l : Line} (h : l.Sound) : ∀ c ∈ l.chars, isVerbatim c = true := by
  have hkey : ∀ c ∈ l.key, Yaml.isVerbatim c = true := fun c hc => isVerbatim_of_isBare (h.key.2 c hc)
  have hvalue : ∀ v ∈ l.value, ∀ c ∈ v, Yaml.isVerbatim c = true := fun v hv c hc =>
    isVerbatim_of_isBare ((h.value v hv).2 c hc)
  intro c hc
  rw [chars, content, List.mem_append, List.mem_append, List.mem_cons, List.mem_append, List.mem_singleton] at hc
  -- Blanks, the key, the colon, the value behind a blank, and the end.
  obtain hc | hc | rfl | hc | rfl := hc
  · obtain rfl := (List.mem_replicate.mp hc).2
    decide
  · exact hkey c hc
  · decide
  · cases hv : l.value with
    | none =>
      rw [hv] at hc
      exact absurd hc List.not_mem_nil
    | some v =>
      rw [hv] at hc
      obtain rfl | hc := List.mem_cons.mp hc
      · decide
      · exact hvalue v hv c hc
  · decide

/-- A line has a key, a colon and an end. -/
theorem Line.Sound.le_length {l : Line} (h : l.Sound) : 3 ≤ l.chars.length := by
  have hkey : 0 < l.key.length := List.length_pos_iff.mpr h.key.1
  simp only [chars, content, List.length_append, List.length_cons, List.length_nil]
  omega

/-- A line has three characters at least, so fuel for the characters is fuel for the lines. -/
theorem length_flatMap_chars {lines : List Line} (h : ∀ l ∈ lines, l.Sound) :
    3 * lines.length ≤ (lines.flatMap Line.chars).length := by
  induction lines with
  | nil => exact Nat.zero_le _
  | cons l ls ih =>
    obtain ⟨hl, hls⟩ := List.forall_mem_cons.mp h
    have hline := hl.le_length
    have hlines := ih hls
    rw [List.length_cons, List.flatMap_cons, List.length_append]
    omega

/-- Each line of an outline is sound by itself. -/
theorem Outline.sound {lines : List Line} (h : Outline lines) : ∀ l ∈ lines, l.Sound := by
  induction h with
  | nil => nofun
  | cons hl _ _ ih => exact List.forall_mem_cons.mpr ⟨hl, ih⟩

/-- **The tokens of an outline's text** are those of its lines. -/
theorem tokens_outline {lines : List Line} (h : Outline lines) :
    (source? (String.ofList (lines.flatMap Line.chars))).bind tokens? = some (layout [] lines) := by
  have hverbatim : ∀ c ∈ lines.flatMap Line.chars, isVerbatim c = true := by
    intro c hc
    obtain ⟨l, hl, hcl⟩ := List.mem_flatMap.mp hc
    exact (h.sound l hl).isVerbatim c hcl
  rw [source?_of_isVerbatim hverbatim, Option.bind_some, tokens?, length_place, Lexer.start]
  -- A line takes three steps at most.
  exact Lexer.run_lines h (Nat.lt_succ_of_le (length_flatMap_chars h.sound)) 0 [] 0 []

end HttpService.Yaml
