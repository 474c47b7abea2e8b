import Mathlib.Data.List.TakeDrop
import Mathlib.Data.List.TakeWhile
import Mathlib.Tactic.SplitIfs
import TagRules.Proofs.Stored.Format
import TagRules.Stored.Key

/-!
# Condition keys are read back

A field and a transform hold no point, so that the point between them is the first one of the key,
and the only one. Every other text breaks off at some place, where a name is missing or a second
point stands.

* `Condition.check_eq_ok_iff`: which conditions have well-formed names.
* `Condition.key_ne_customKey`: no condition stands under the key of custom rules.
* `ConditionKey.Spells`, `ConditionKey.BreaksOff`: the texts that are keys, and those that are not.
* `ConditionKey.spells_or_breaksOff`: every text is one of the two.
* `ConditionKey.read_eq_ok_iff`, `ConditionKey.read_eq_error_iff`: which keys are read, and as which
  parts, and where the others break off.
* `ConditionKey.read_key`: the key of a condition is read as its field and its transform.
* `ConditionKey.read_unambiguous`: keys are unambiguous.
-/

namespace TagRules

namespace Condition

variable {c : Condition}

theorem isKeyPart_iff {s : String} : isKeyPart s = true ↔ s ≠ "" ∧ '.' ∉ s.toList := by
  simp [isKeyPart]

/-- **Which conditions have well-formed names.** -/
theorem check_eq_ok_iff : c.check = .ok () ↔
    isKeyPart c.field = true ∧ c.field ≠ customKey ∧
      (∀ t, c.transform = some t → isKeyPart t = true) ∧ c.comparator ≠ "" := by
  unfold check
  rw [isKeyPart_iff, ← Option.all_eq_true]
  split_ifs <;> simp_all

/-- **No condition stands under the key of custom rules**, even with a transform. -/
theorem key_ne_customKey (h : c.check = .ok ()) : c.key ≠ customKey := by
  obtain ⟨-, hfield, -, -⟩ := check_eq_ok_iff.1 h
  cases ht : c.transform with
  | none => simpa [key, ht] using hfield
  | some t =>
    -- The key of a condition with a transform holds a point.
    intro hkey
    have hpoint : '.' ∈ customKey.toList := by
      rw [← hkey]
      simp [key, ht]
    exact absurd hpoint (by decide)

end Condition

namespace ConditionKey

/-- A part of a key ends at the next point. -/
theorem splitPart_append {part : List Char} (hpart : '.' ∉ part) (rest : List Char)
    (hrest : ∀ c ∈ rest.head?, c = '.') : splitPart (part ++ rest) = (part, rest) := by
  have hpass : ∀ c ∈ part, decide (c ≠ '.') = true := by
    intro c hc
    exact decide_eq_true fun hpoint => hpart (hpoint ▸ hc)
  rw [splitPart, List.span_eq_takeWhile_dropWhile, List.takeWhile_append_of_pos hpass,
    List.dropWhile_append_of_pos hpass]
  cases rest with
  | nil => simp
  | cons c rest => simp [hrest c rfl]

/-- A key is split before its first point. -/
theorem splitPart_eq {cs part rest : List Char} (h : splitPart cs = (part, rest)) :
    cs = part ++ rest ∧ '.' ∉ part ∧ (rest = [] ∨ ∃ tail, rest = '.' :: tail) := by
  rw [splitPart, List.span_eq_takeWhile_dropWhile] at h
  obtain ⟨rfl, rfl⟩ := Prod.mk.inj h
  refine ⟨List.takeWhile_append_dropWhile.symm, fun hmem => ?_, ?_⟩
  · simpa using List.mem_takeWhile_imp hmem
  · cases hrest : cs.dropWhile (· ≠ '.') with
    | nil => exact .inl rfl
    | cons c tail =>
      have hhead := List.head?_dropWhile_not (fun c : Char => decide (c ≠ '.')) cs
      rw [hrest] at hhead
      have hc : c = '.' := by simpa using hhead
      exact .inr ⟨tail, by rw [hc]⟩

/-- The key with some parts: the field, and the transform behind a point. -/
def text (p : ConditionKey) : String :=
  match p.transform with
  | some t => p.field ++ "." ++ t
  | none => p.field

/-- The parts of a key are not empty, and hold no point. -/
def IsSound (p : ConditionKey) : Prop :=
  Condition.isKeyPart p.field = true ∧ ∀ t, p.transform = some t → Condition.isKeyPart t = true

/-- The parts of a key are read back. -/
theorem read_text {p : ConditionKey} (h : p.IsSound) : read p.text = .ok p := by
  obtain ⟨field, transform⟩ := p
  obtain ⟨hfield, htransform⟩ := h
  obtain ⟨hfield, hpoint⟩ := Condition.isKeyPart_iff.1 hfield
  cases transform with
  | none =>
    have hsplit := splitPart_append hpoint [] (by simp)
    rw [List.append_nil] at hsplit
    simp [read, text, hsplit, hfield]
  | some t =>
    obtain ⟨htext, htpoint⟩ := Condition.isKeyPart_iff.1 (htransform t rfl)
    -- The first point ends the field, and there is none in the transform.
    have hkey : (text ⟨field, some t⟩).toList = field.toList ++ '.' :: t.toList := by
      simp [text]
    have hsplit := splitPart_append hpoint ('.' :: t.toList) (by simp)
    have htsplit := splitPart_append htpoint [] (by simp)
    rw [List.append_nil] at htsplit
    simp [read, hkey, hsplit, htsplit, hfield, htext]

/-! ### Which texts are keys -/

/-- **A text spells the parts of a condition key**: a field, or a field and a transform with a point
between them. -/
inductive Spells : String → ConditionKey → Prop
  | plain {field : String} : Json.IsKeyPart field → Spells field ⟨field, none⟩
  | transformed {field transform : String} : Json.IsKeyPart field → Json.IsKeyPart transform →
      Spells (field ++ "." ++ transform) ⟨field, some transform⟩

/-- No name stands at the beginning of a text: it is empty, or a point comes first. -/
def NoPart (s : String) : Prop := s = "" ∨ ∃ rest, s = "." ++ rest

/-- **A text is no key**: it breaks off, after so many bytes, where the name of the field or of the
transform is missing, or where a second point stands and the key should end. -/
inductive BreaksOff : String → Nat → KeyPart → Prop
  | field {rest : String} : NoPart rest → BreaksOff rest 0 .field
  | transform {field rest : String} : Json.IsKeyPart field → NoPart rest →
      BreaksOff (field ++ "." ++ rest) (field ++ ".").utf8ByteSize .transform
  | ending {field transform rest : String} : Json.IsKeyPart field → Json.IsKeyPart transform →
      BreaksOff (field ++ "." ++ (transform ++ "." ++ rest))
        (field ++ "." ++ transform).utf8ByteSize .ending

/-- A text has no name at its beginning, or is a name, or has a name before its first point. -/
theorem part_cases (s : String) : NoPart s ∨ Json.IsKeyPart s ∨
    ∃ part rest, Json.IsKeyPart part ∧ s = part ++ "." ++ rest := by
  obtain ⟨⟨part, rest⟩, hsplit⟩ : ∃ parts, splitPart s.toList = parts := ⟨_, rfl⟩
  obtain ⟨hs, hpoint, hrest⟩ := splitPart_eq hsplit
  have hs : s = String.ofList part ++ String.ofList rest := by
    rw [← String.ofList_append, ← hs, String.ofList_toList]
  have hpart : part ≠ [] → Json.IsKeyPart (String.ofList part) := fun hne =>
    ⟨by simpa using hne, by simpa using hpoint⟩
  rcases hrest with rfl | ⟨tail, rfl⟩
  · have hs : s = String.ofList part := by simpa using hs
    by_cases hne : part = []
    · exact .inl (.inl (by simp [hs, hne]))
    · exact .inr (.inl (hs ▸ hpart hne))
  · have htail : String.ofList ('.' :: tail) = "." ++ String.ofList tail := by
      rw [← List.singleton_append, String.ofList_append]
    rw [htail] at hs
    by_cases hne : part = []
    · exact .inl (.inr ⟨String.ofList tail, by simpa [hne] using hs⟩)
    · exact .inr (.inr ⟨_, _, hpart hne, by rw [hs, String.append_assoc]⟩)

/-- **Every text spells parts of a key, or breaks off.** -/
theorem spells_or_breaksOff (key : String) :
    (∃ p, Spells key p) ∨ ∃ offset missing, BreaksOff key offset missing := by
  rcases part_cases key with hfield | hfield | ⟨field, rest, hfield, rfl⟩
  · exact .inr ⟨_, _, .field hfield⟩
  · exact .inl ⟨_, .plain hfield⟩
  · rcases part_cases rest with htransform | htransform | ⟨transform, rest, htransform, rfl⟩
    · exact .inr ⟨_, _, .transform hfield htransform⟩
    · exact .inl ⟨_, .transformed hfield htransform⟩
    · exact .inr ⟨_, _, .ending hfield htransform⟩

theorem spells_iff {key : String} {p : ConditionKey} : Spells key p ↔ p.IsSound ∧ p.text = key := by
  constructor
  · intro h
    cases h with
    | plain hfield => exact ⟨⟨Condition.isKeyPart_iff.2 hfield, fun t ht => nomatch ht⟩, rfl⟩
    | transformed hfield htransform =>
      refine ⟨⟨Condition.isKeyPart_iff.2 hfield, fun t ht => ?_⟩, rfl⟩
      cases ht
      exact Condition.isKeyPart_iff.2 htransform
  · rintro ⟨⟨hfield, htransform⟩, rfl⟩
    obtain ⟨field, transform⟩ := p
    cases transform with
    | none => exact .plain (Condition.isKeyPart_iff.1 hfield)
    | some t =>
      exact .transformed (Condition.isKeyPart_iff.1 hfield)
        (Condition.isKeyPart_iff.1 (htransform t rfl))

/-! ### Reading -/

theorem read_of_spells {key : String} {p : ConditionKey} (h : Spells key p) : read key = .ok p := by
  obtain ⟨hsound, rfl⟩ := spells_iff.1 h
  exact read_text hsound

/-- Nothing is split off where no name stands. -/
theorem splitPart_of_noPart {s : String} (h : NoPart s) : splitPart s.toList = ([], s.toList) := by
  have hempty : '.' ∉ ([] : List Char) := by simp
  refine splitPart_append hempty s.toList fun c hc => ?_
  rcases h with rfl | ⟨rest, rfl⟩
  · cases hc
  · simpa [eq_comm] using hc

theorem byteLength_toList (s : String) : byteLength s.toList = s.utf8ByteSize := by
  rw [byteLength, String.ofList_toList]

/-- **Where a text breaks off, the reader stops.** -/
theorem read_of_breaksOff {key : String} {offset : Nat} {missing : KeyPart}
    (h : BreaksOff key offset missing) : read key = .error (.invalidKey key offset missing) := by
  have hpoint : ".".utf8ByteSize = 1 := by decide
  cases h with
  | field hrest => simp [read, splitPart_of_noPart hrest]
  | @transform field rest hfield hrest =>
    have hsplit := splitPart_append hfield.2 ('.' :: rest.toList) (by simp)
    simp [read, hsplit, splitPart_of_noPart hrest, hfield.1, byteLength_toList, hpoint]
  | @ending field transform rest hfield htransform =>
    have hsplit :=
      splitPart_append hfield.2 ('.' :: (transform.toList ++ '.' :: rest.toList)) (by simp)
    have htsplit := splitPart_append htransform.2 ('.' :: rest.toList) (by simp)
    simp [read, hsplit, htsplit, hfield.1, htransform.1, byteLength_toList, hpoint]

/-- **Which texts are read**, and as which parts. -/
theorem read_eq_ok_iff {key : String} {p : ConditionKey} : read key = .ok p ↔ Spells key p := by
  refine ⟨fun h => ?_, read_of_spells⟩
  rcases spells_or_breaksOff key with ⟨q, hq⟩ | ⟨offset, missing, hbreaks⟩
  · cases h.symm.trans (read_of_spells hq)
    exact hq
  · cases h.symm.trans (read_of_breaksOff hbreaks)

/-- **Where the other texts break off.** -/
theorem read_eq_error_iff {key : String} {e : RuleError} : read key = .error e ↔
    ∃ offset missing, e = .invalidKey key offset missing ∧ BreaksOff key offset missing := by
  constructor
  · intro h
    rcases spells_or_breaksOff key with ⟨p, hp⟩ | ⟨offset, missing, hbreaks⟩
    · cases h.symm.trans (read_of_spells hp)
    · cases h.symm.trans (read_of_breaksOff hbreaks)
      exact ⟨offset, missing, rfl, hbreaks⟩
  · rintro ⟨offset, missing, rfl, hbreaks⟩
    exact read_of_breaksOff hbreaks

example : read "größe.abs.lower" = .error (.invalidKey "größe.abs.lower" 11 .ending) := rfl

/-- **The key of a condition is read** as its field and its transform. -/
theorem read_key {c : Condition} (h : c.check = .ok ()) :
    read c.key = .ok ⟨c.field, c.transform⟩ := by
  obtain ⟨hfield, -, htransform, -⟩ := Condition.check_eq_ok_iff.1 h
  exact read_text (p := ⟨c.field, c.transform⟩) ⟨hfield, htransform⟩

/-- **Condition keys are unambiguous.** A text is read just when it spells the parts of a key, and
as these parts; all other texts are refused at the place where they break off. The parts that are
read are written as the same key again. The key of a condition with well-formed names is read as its
field and its transform, so that conditions with the same key agree in both. -/
theorem read_unambiguous (key : String) :
    (∀ p, read key = .ok p ↔ Spells key p) ∧
    (∀ e, read key = .error e ↔
      ∃ offset missing, e = .invalidKey key offset missing ∧ BreaksOff key offset missing) ∧
    (∀ p, read key = .ok p → ∀ comparator value,
      Condition.key ⟨p.field, p.transform, comparator, value⟩ = key) ∧
    (∀ c : Condition, c.check = .ok () → read c.key = .ok ⟨c.field, c.transform⟩) ∧
    ∀ c d : Condition, c.check = .ok () → d.check = .ok () →
      (c.key = d.key ↔ c.field = d.field ∧ c.transform = d.transform) := by
  refine ⟨fun p => read_eq_ok_iff, fun e => read_eq_error_iff, fun p hp comparator value => ?_,
    fun c hc => read_key hc, fun c d hc hd => ⟨fun hkey => ?_, fun hparts => ?_⟩⟩
  · obtain ⟨-, htext⟩ := spells_iff.1 (read_eq_ok_iff.1 hp)
    exact htext
  · have hread : read d.key = .ok ⟨c.field, c.transform⟩ := hkey ▸ read_key hc
    exact ConditionKey.mk.inj (Except.ok.inj (hread.symm.trans (read_key hd)))
  · rw [Condition.key, Condition.key, hparts.1, hparts.2]

/-- Something was booked in March. -/
def bookedInMarch : Condition := ⟨"booking date", some "month", "eq", .int 3⟩

/-- Something was booked after March. -/
def bookedAfterMarch : Condition := ⟨"booking date", some "month", "gt", .int 3⟩

theorem read_unambiguous_bookingMonth :
    Spells "booking date.month" ⟨"booking date", some "month"⟩ ∧
    read "booking date.month" = .ok ⟨"booking date", some "month"⟩ ∧
    bookedInMarch.key = "booking date.month" ∧
    bookedInMarch.check = .ok () ∧ bookedAfterMarch.check = .ok () ∧
    read bookedInMarch.key = .ok ⟨"booking date", some "month"⟩ ∧
    bookedInMarch.key = bookedAfterMarch.key := by
  obtain ⟨hread, -, hwritten, hcondition, hshared⟩ := read_unambiguous "booking date.month"
  have hspells : Spells ("booking date" ++ "." ++ "month") ⟨"booking date", some "month"⟩ :=
    .transformed (Condition.isKeyPart_iff.1 rfl) (Condition.isKeyPart_iff.1 rfl)
  have hok := (hread _).2 hspells
  have hmarch : bookedInMarch.check = .ok () := rfl
  have hlater : bookedAfterMarch.check = .ok () := rfl
  exact ⟨hspells, hok, hwritten _ hok "eq" (.int 3), hmarch, hlater, hcondition _ hmarch,
    (hshared _ _ hmarch hlater).2 ⟨rfl, rfl⟩⟩

end ConditionKey

end TagRules
