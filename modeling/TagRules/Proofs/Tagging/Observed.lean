import TagRules.Proofs.MatchReport
import TagRules.Proofs.Tagging.Model
import TagRules.Proofs.Tagging.Output

/-!
# Match reports of linear tagging

A linear run with match reports observes the rules that it evaluates. It takes the records through
the same course, and every rule is observed on the records as the level of its tag sees them.

* `evaluates_observe`: observed evaluation is a way to evaluate rules.
* `lookup_of_gives`, `lookup_results`: the results of a tag are found by its number.
* `matchReports_ok`: the report on a tag counts, for every node of its rule, the records on which
  the node holds at the level of the tag.
-/

namespace TagRules.LinearEngine

open Outcome

variable {tags : TagSet} {reg : Registry} {options : TaggingOptions}

/-- **Observed evaluation is a way to evaluate rules.** -/
theorem evaluates_observe (reg : Registry) :
    Evaluates reg Resolved.observe Evaluation.outcome fun r x => r.observed reg x := by
  refine ⟨fun {r p} hp x => ?_, fun _ _ => rfl⟩
  have hrule : r.evaluate x reg = p.evaluate x := Rule.evaluate_of_resolve hp
  cases h : p.observe x with
  | ok e =>
    refine ⟨Rule.observeAt_eq hp h, e.outcome, ?_⟩
    rw [hrule]
    exact Resolved.evaluate_of_observe h
  | error error =>
    rintro ⟨b, hb⟩
    rw [hrule, ← Resolved.outcome_observeAt p [], show p.observeAt x [] = .error error from h] at hb
    cases hb

/-- The results of a tag are found by its number. -/
theorem lookup_of_gives {β : Type} {ts : List Tag} {c : Course} {records : RecordSet}
    {result : Rule → Record → β} {ranked : List (Tag × Nat)} {results : List (Nat × List β)}
    (h : List.Forall₂ (Gives ts c records result) ranked results) {e : Tag × Nat} {i : Nat}
    (he : e ∈ ranked) (hunique : ∀ e' ∈ ranked, e'.1 = e.1 → e' = e)
    (hi : ∀ j, ts[j]? = some e.1 ↔ j = i) :
    results.lookup i = some (records.map fun r => result e.1.rule (c.view e.2 r)) := by
  induction h with
  | nil => cases he
  | @cons e' res ranked results hres _ ih =>
    obtain ⟨hfirst, hrest⟩ := List.forall_mem_cons.1 hunique
    obtain ⟨j, row⟩ := res
    obtain ⟨hj, hrow⟩ : ts[j]? = some e'.1 ∧ row = _ := hres
    rw [List.lookup_cons]
    by_cases hji : j = i
    · rw [hji, (hi i).2 rfl] at hj
      rw [hji, beq_self_eq_true, hrow, hfirst (Option.some.inj hj).symm]
    · have hne : e ≠ e' := fun heq => hji ((hi j).1 (heq ▸ hj))
      rw [beq_eq_false_iff_ne.2 (Ne.symm hji)]
      exact ih ((List.mem_cons.1 he).resolve_left hne) hrest

/-- **The results of a tag** are those of its rule on the records as the level of the tag sees them. -/
theorem lookup_results {β : Type} {records : RecordSet} {result : Rule → Record → β}
    {levels : List Nat} {results : List (Nat × List β)}
    (hlength : levels.length = tags.tags.length)
    (h : List.Forall₂ (Gives tags.tags (tags.course reg options levels) records result)
      ((tags.course reg options levels).inOrder (levelCount levels)) results)
    {e : Tag × Nat} (he : e ∈ (tags.course reg options levels).ranked) {i : Nat}
    (hi : tags.tags[i]? = some e.1) :
    results.lookup i =
      some (records.map fun r => result e.1.rule ((tags.course reg options levels).view e.2 r)) := by
  have hnodup : tags.tags.Nodup := List.Nodup.of_map Tag.name tags.nodup
  have hlt : ∀ e' ∈ (tags.course reg options levels).ranked, e'.2 < levelCount levels :=
    fun e' he' => lt_levelCount (List.of_mem_zip he').2
  refine lookup_of_gives h ((Course.mem_inOrder hlt).2 he) (fun e' he' heq => ?_) fun j => ?_
  · exact eq_of_name_eq hlength ((Course.mem_inOrder hlt).1 he') he (congrArg Tag.name heq)
  · refine ⟨fun hj => ?_, fun hj => hj ▸ hi⟩
    obtain ⟨hlt, hget⟩ := List.getElem?_eq_some_iff.1 hi
    obtain ⟨hlt', hget'⟩ := List.getElem?_eq_some_iff.1 hj
    exact (hnodup.getElem_inj_iff).1 (hget'.trans hget.symm)

/-- The report on a tag is found by its name. -/
theorem lookup_zipIdx {β : Type} {ts : List Tag} (hnodup : (ts.map Tag.name).Nodup) (f : Nat → β)
    {t : Tag} : ∀ {first i : Nat}, ts[i]? = some t →
      ((ts.zipIdx first).map fun (t, i) => (t.name, f i)).lookup t.name = some (f (first + i)) := by
  induction ts with
  | nil => exact fun h => nomatch h
  | cons t' ts ih =>
    obtain ⟨hname, hnodup⟩ := List.nodup_cons.1 hnodup
    intro first i hi
    rw [List.zipIdx_cons, List.map_cons, List.lookup_cons]
    cases i with
    | zero =>
      cases hi
      rw [beq_self_eq_true]
      rfl
    | succ i =>
      rw [List.getElem?_cons_succ] at hi
      have hne : t.name ≠ t'.name := fun heq =>
        hname (heq ▸ List.mem_map_of_mem (List.mem_of_getElem? hi))
      rw [beq_eq_false_iff_ne.2 hne, show first + (i + 1) = first + 1 + i by omega]
      exact ih hnodup hi

/-- **The report on a tag counts**, for every node of its rule, the records on which the node holds
at the level of the tag. -/
theorem matchReports_ok {levels : List Nat} {height : Nat} (hvalid : tags.validate reg = .ok ())
    (hlength : levels.length = tags.tags.length) (hheight : ∀ level ∈ levels, level < height)
    {records out : RecordSet} {reports : List (String × MatchReport)}
    (h : matchReports ⟨tags, reg, options, levelsOf levels⟩ records = .ok (out, reports)) :
    out = records.map ((tags.course reg options levels).view height) ∧
      ∀ e ∈ (tags.course reg options levels).ranked, ∃ m, reports.lookup e.1.name = some m ∧
        ∀ path s, e.1.rule.atPath path = some s → m.matchCount path =
          records.countP fun r => s.holds reg ((tags.course reg options levels).view e.2 r) := by
  obtain ⟨⟨tagged, results⟩, hrun, h⟩ := bind_eq_ok_iff.1 h
  cases h
  obtain ⟨rfl, hgives, -⟩ :=
    (ends_run (evaluates_observe reg) hvalid hlength hheight records).ok hrun
  refine ⟨rfl, fun e he => ?_⟩
  obtain ⟨i, hi, -⟩ := exists_index he
  refine ⟨_, lookup_zipIdx tags.nodup (fun i =>
    ((results.lookup i).getD []).foldl MatchReport.record .empty) hi, fun path s hs => ?_⟩
  rw [Nat.zero_add, lookup_results hlength hgives he hi, Option.getD_some]
  have hcount := MatchReport.matchCount_observed reg
    (records.map ((tags.course reg options levels).view e.2)) hs
  rw [List.map_map, List.countP_map] at hcount
  exact hcount

end TagRules.LinearEngine
