import HttpService.Text.Pieces

/-!
# Paths as lists of segments

A path is read as the list of its segments: the stretches between slashes that are not empty. So `/`, `//` and
the empty text are all the path without segments, and `a//b/` is the same path as `/a/b`.
-/

namespace HttpService

/-- One step of a path. -/
abbrev Segment := String

/-- The segment that stands for any one segment. -/
def wildcard : Segment := "*"

/-- The segments of a path. -/
def segments (path : String) : List Segment :=
  ((pieces '/' path.toList).filter fun p => !p.isEmpty).map String.ofList

/-- The path of some segments, spelled with one slash before each; `/` if there are none. -/
def spell : List Segment → String
  | [] => "/"
  | ss => String.join (ss.map ("/" ++ ·))

/-- A segment of a path is not empty and holds no slash. -/
theorem segment_of_mem {path : String} {s : Segment} (h : s ∈ segments path) :
    s ≠ "" ∧ '/' ∉ s.toList := by
  obtain ⟨p, hp, rfl⟩ := List.mem_map.mp h
  obtain ⟨hp, hne⟩ := List.mem_filter.mp hp
  have := not_mem_of_mem_pieces hp
  refine ⟨?_, by simpa using this⟩
  rw [Ne, ← String.toList_inj]
  simpa using hne

/-! ## Paths of the same segments -/

/-- A slash joins two paths into the path of the segments of both. -/
theorem segments_joined (p q : String) : segments (p ++ "/" ++ q) = segments p ++ segments q := by
  have hsplit : (p ++ "/" ++ q).toList = p.toList ++ '/' :: q.toList := by simp
  rw [segments, hsplit, pieces_append, List.filter_append, List.map_append]
  rfl

/-- A slash in front adds no segment. -/
theorem segments_slash (p : String) : segments ("/" ++ p) = segments p := by
  have h := segments_joined "" p
  rwa [String.empty_append] at h

theorem segments_empty : segments "" = [] := by
  rw [segments]
  rfl

/-- A slash at the end makes no segment. -/
theorem segments_append_slash (p : String) : segments (p ++ "/") = segments p := by
  have h := segments_joined p ""
  rwa [String.append_empty, segments_empty, List.append_nil] at h

/-- A slash behind a slash adds no segment. -/
theorem segments_doubled (p q : String) : segments (p ++ "//" ++ q) = segments (p ++ "/" ++ q) := by
  have hslashes : p ++ "//" ++ q = p ++ "/" ++ ("/" ++ q) := by
    rw [← String.toList_inj]
    simp
  rw [hslashes, segments_joined, segments_joined, segments_slash]

/-! ## Spelling -/

/-- The text of a path below the root, which is empty for no segments. -/
def trail (ss : List Segment) : String := String.join (ss.map ("/" ++ ·))

theorem trail_nil : trail [] = "" := rfl

theorem trail_cons (s : Segment) (ss : List Segment) : trail (s :: ss) = "/" ++ s ++ trail ss := by
  rw [trail, List.map_cons, String.join_cons, trail]

/-- Only the empty list is spelled by a slash alone. -/
theorem spell_of_ne_nil {ss : List Segment} (h : ss ≠ []) : spell ss = trail ss := by
  cases ss with
  | nil => exact absurd rfl h
  | cons s ss => rfl

/-- A path is spelled with a slash in front and one between each two segments. -/
theorem spell_eq_intercalate (ss : List Segment) : spell ss = "/" ++ "/".intercalate ss := by
  cases ss with
  | nil => rfl
  | cons s ss =>
    rw [spell_of_ne_nil (List.cons_ne_nil s ss)]
    induction ss generalizing s with
    | nil => rw [trail_cons, trail_nil, String.append_empty, String.intercalate_singleton]
    | cons s' ss ih =>
      rw [trail_cons, ih s', String.intercalate_cons_cons, String.append_assoc, String.append_assoc]

/-- Text without slashes is one segment. -/
theorem segments_of_segment {s : Segment} (h : s ≠ "" ∧ '/' ∉ s.toList) : segments s = [s] := by
  have hne : s.toList ≠ [] := by simpa using h.1
  rw [segments, pieces_of_not_mem h.2, List.filter_cons_of_pos (by simpa using hne)]
  simp

/-- A path grows by the segments behind it. -/
theorem segments_append_trail (path : String) (ss : List Segment) :
    segments (path ++ trail ss) = segments path ++ segments (trail ss) := by
  cases ss with
  | nil => rw [trail_nil, String.append_empty, segments_empty, List.append_nil]
  | cons s ss =>
    rw [trail_cons, String.append_assoc, ← String.append_assoc, segments_joined, segments_slash]

/-- Segments are read back from their spelling. -/
theorem segments_spell {ss : List Segment} (h : ∀ s ∈ ss, s ≠ "" ∧ '/' ∉ s.toList) : segments (spell ss) = ss := by
  -- Only the empty list is spelled otherwise, as a slash of its own.
  have htrail : segments (trail ss) = ss := by
    induction ss with
    | nil => rw [trail_nil, segments_empty]
    | cons s ss ih =>
      have hs := segments_of_segment (h s List.mem_cons_self)
      have hrest := ih fun s' hs' => h s' (List.mem_cons_of_mem s hs')
      rw [trail_cons, segments_append_trail, segments_slash, hs, hrest, List.singleton_append]
  cases ss with
  | nil =>
    have hroot := segments_slash ""
    rwa [segments_empty] at hroot
  | cons s ss => exact htrail

end HttpService
