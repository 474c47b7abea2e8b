import Mathlib.Data.List.Forall2
import TagRules.Proofs.Dependency.Declared
import TagRules.Proofs.Rule.Validation
import TagRules.Proofs.Tagging.Course
import TagRules.Tagging.Linear

/-!
# Linear tagging follows the course

A linear engine takes the records through the course of its tags, level by level.

* `make_ok`, `exists_make`: the parts of an engine, and when there is one.
* `levelsOf_map`: the entries of a level are those of its tags, in the order of declaration.
* `Evaluates`: a way to evaluate rules, with or without observations.
* `ends_runLevel`, `ends_runLevels`: what a level, and all levels, do to the tag lists.
* `ends_run`, `ends_tagRecords`: an engine succeeds when every rule can be evaluated.
-/

namespace TagRules.LinearEngine

open Outcome

variable {tags : TagSet} {reg : Registry} {options : TaggingOptions} {engine : LinearEngine}

/-! ### Engines -/

/-- The tags of each level, for the levels of all tags. -/
def levelsOf (levels : List Nat) : List (List Nat) :=
  groupLevels (((List.range levels.length).zip levels).mergeSort fun a b => a.2 ≤ b.2)

theorem make_eq (tags : TagSet) (reg : Registry) (options : TaggingOptions) :
    make tags reg options = (tags.validate reg).mapError .rule >>= fun _ =>
      (DependencyGraph.ofTags tags).removeCycles.1.levelOrder.mapError .plan >>= fun order =>
        .ok ⟨tags, reg, options, groupLevels order⟩ :=
  rfl

/-- **The parts of an engine.** -/
theorem make_ok (h : make tags reg options = .ok engine) :
    tags.validate reg = .ok () ∧
      ∃ levels, (DependencyGraph.ofTags tags).removeCycles.1.levels = .ok levels ∧
        engine = ⟨tags, reg, options, levelsOf levels⟩ := by
  rw [make_eq] at h
  obtain ⟨⟨⟩, hvalid, h⟩ := bind_eq_ok_iff.1 h
  obtain ⟨order, horder, h⟩ := bind_eq_ok_iff.1 h
  obtain ⟨levels, hlevels, horder⟩ := bind_eq_ok_iff.1 (mapError_eq_ok_iff.1 horder)
  cases h
  cases horder
  refine ⟨mapError_eq_ok_iff.1 hvalid, levels, hlevels, ?_⟩
  rw [levelsOf, DependencyGraph.length_levels hlevels]

/-- There is an engine for every valid tag set. -/
theorem exists_make (h : tags.validate reg = .ok ()) (options : TaggingOptions) :
    ∃ engine, make tags reg options = .ok engine := by
  obtain ⟨levels, hlevels⟩ := DependencyGraph.exists_levels
    (DependencyGraph.not_isCycle_removeCycles (DependencyGraph.ofTags tags))
  rw [make_eq, h, DependencyGraph.levelOrder, hlevels]
  exact ⟨_, rfl⟩

/-! ### The entries of a level -/

/-- An entry stands for a tag, one of some tags. -/
structure StandsFor (ts : List Tag) (reg : Registry) (e : Entry) (t : Tag) : Prop where
  name : e.name = t.name
  rule : reg.resolve t.rule = .ok e.rule
  index : ts[e.index]? = some t

/-- The entries of some tags with their resolved rules, numbered from `first` on. -/
def entriesOf (ts : List Tag) (rules : List Resolved) (first : Nat) : List Entry :=
  List.zipWith (fun (t, i) r => (⟨i, t.name, r⟩ : Entry)) (ts.zipIdx first) rules

theorem forall₂_entriesOf {ts : List Tag} {rules : List Resolved}
    (h : List.Forall₂ (fun (t : Tag) r => reg.resolve t.rule = .ok r) ts rules) :
    ∀ pre : List Tag,
      List.Forall₂ (StandsFor (pre ++ ts) reg) (entriesOf ts rules pre.length) ts := by
  induction h with
  | nil => exact fun pre => .nil
  | @cons t r ts rules hr _ ih =>
    intro pre
    have hrest := ih (pre ++ [t])
    rw [List.append_assoc, List.length_append] at hrest
    exact .cons ⟨rfl, hr, by simp⟩ hrest

theorem zip_range'_filterMap {α : Type} (xs : List α) (pre : List α) :
    ∀ levels : List Nat, (((List.range' pre.length xs.length).zip levels).filterMap fun e =>
      ((pre ++ xs)[e.1]?).map fun x => (x, e.2)) = xs.zip levels := by
  induction xs generalizing pre with
  | nil => simp
  | cons x xs ih =>
    intro levels
    cases levels with
    | nil => simp
    | cons level levels =>
      have := ih (pre ++ [x]) levels
      rw [List.length_append, List.length_singleton, List.append_assoc, List.singleton_append] at this
      rw [List.length_cons, List.range'_succ, List.zip_cons_cons, List.zip_cons_cons,
        List.filterMap_cons, this]
      simp

/-- The items of a level, which are picked by their numbers. -/
theorem filterMap_getElem? {α : Type} {xs : List α} {levels : List Nat}
    (hlength : levels.length = xs.length) (level : Nat) :
    ((((List.range levels.length).zip levels).filter (·.2 = level)).map Prod.fst).filterMap (xs[·]?) =
      ((xs.zip levels).filter (·.2 = level)).map Prod.fst := by
  have hzip := zip_range'_filterMap xs [] levels
  simp only [List.length_nil, List.nil_append] at hzip
  rw [← hzip, hlength, List.range_eq_range']
  generalize (List.range' 0 xs.length).zip levels = l
  induction l with
  | nil => rfl
  | cons e l ih =>
    by_cases hlevel : e.2 = level
    · cases hx : xs[e.1]? <;> simp_all
    · cases hx : xs[e.1]? <;> simp_all

theorem forall₂_filter {α β : Type} {R : α → β → Prop} {xs : List α} {ys : List β}
    (h : List.Forall₂ R xs ys) (level : Nat) : ∀ levels : List Nat,
      List.Forall₂ (fun x (y : β × Nat) => R x y.1)
        (((xs.zip levels).filter (·.2 = level)).map Prod.fst)
        ((ys.zip levels).filter (·.2 = level)) := by
  induction h with
  | nil => exact fun levels => .nil
  | @cons x y xs ys hxy _ ih =>
    intro levels
    cases levels with
    | nil => exact .nil
    | cons l levels =>
      rw [List.zip_cons_cons, List.zip_cons_cons]
      by_cases hl : l = level
      · simp only [List.filter_cons, hl, decide_true, if_true, List.map_cons]
        exact .cons hxy (ih levels)
      · simp only [List.filter_cons, hl, decide_false, Bool.false_eq_true, if_false]
        exact ih levels

/-! ### Levels -/

/-- **A way to evaluate rules**: it succeeds on the records on which a rule can be evaluated, with a
result that says whether the rule holds. -/
structure Evaluates {β : Type} (reg : Registry) (f : Record → Resolved → Except EvalError β)
    (outcome : β → Bool) (result : Rule → Record → β) : Prop where
  ends : ∀ {r p}, reg.resolve r = .ok p → ∀ x,
    Ends (fun b => b = result r x ∧ r.Defined reg x) (fun _ => ¬r.Defined reg x) (f x p)
  outcome_result : ∀ r x, outcome (result r x) = r.holds reg x

/-- Evaluation without observations. -/
theorem evaluates_evaluate (reg : Registry) :
    Evaluates reg (fun x p => p.evaluate x) id fun r x => r.holds reg x := by
  refine ⟨fun {r p} hp x => ?_, fun _ _ => rfl⟩
  have hrule : r.evaluate x reg = p.evaluate x := Rule.evaluate_of_resolve hp
  rw [← hrule]
  cases h : r.evaluate x reg with
  | ok b => exact ⟨(Rule.holds_of_evaluate h).symm, b, h⟩
  | error e =>
    rintro ⟨b, hb⟩
    cases h.symm.trans hb

section

variable {β : Type} {f : Record → Resolved → Except EvalError β} {outcome : β → Bool}
  {result : Rule → Record → β} {c : Course} {records : RecordSet} {level : Nat} {ts : List Tag}

/-- The results of a tag, as the run gives them: by the number of the tag, row by row. -/
def Gives (ts : List Tag) (c : Course) (records : RecordSet) (result : Rule → Record → β)
    (t : Tag × Nat) (res : Nat × List β) : Prop :=
  ts[res.1]? = some t.1 ∧ res.2 = records.map fun r => result t.1.rule (c.view t.2 r)

/-- The rule of an entry on every row. -/
theorem ends_entry (hf : Evaluates c.registry f outcome result) {e : Entry} {t : Tag × Nat}
    (h : StandsFor ts c.registry e t.1) (hmem : t ∈ c.ranked) :
    Ends (fun res => res = (e, records.map fun r => result t.1.rule (c.view t.2 r)) ∧
        ∀ r ∈ records, t.1.rule.Defined c.registry (c.view t.2 r))
      (fun _ => ¬c.Defined records)
      (do return (e, ← (records.map (c.view t.2)).mapM fun r => f r e.rule)) := by
  rw [List.mapM_map]
  have hrows := Ends.rows (l := records) (v := fun r => result t.1.rule (c.view t.2 r))
    (f := fun r => f (c.view t.2 r) e.rule) fun r _ b hb => ((hf.ends h.rule _).ok hb).1
  refine Ends.bind (hrows.mono (fun _ hgood => hgood) fun _ hbad hdefined => ?_) fun row hrow => ?_
  · obtain ⟨r, hr, hnot⟩ := hbad
    cases hrun : f (c.view t.2 r) e.rule with
    | ok b => exact hnot ⟨b, hrun⟩
    | error e' => exact (hf.ends h.rule _).error hrun (hdefined r hr _ hmem)
  · refine ⟨by rw [hrow.1], fun r hr => ?_⟩
    obtain ⟨b, hb⟩ := hrow.2 r hr
    exact ((hf.ends h.rule _).ok hb).2

/-- The rules of some entries on every row. -/
theorem ends_entries (hf : Evaluates c.registry f outcome result) {entries : List Entry}
    {ranked : List (Tag × Nat)}
    (h : List.Forall₂ (fun e (t : Tag × Nat) => StandsFor ts c.registry e t.1) entries ranked)
    (hmem : ∀ t ∈ ranked, t ∈ c.ranked ∧ t.2 = level) :
    Ends (fun results => List.Forall₂ (fun (t : Tag × Nat) res => StandsFor ts c.registry res.1 t.1 ∧
          res.2 = records.map fun r => result t.1.rule (c.view t.2 r)) ranked results ∧
        ∀ t ∈ ranked, ∀ r ∈ records, t.1.rule.Defined c.registry (c.view t.2 r))
      (fun _ => ¬c.Defined records)
      (entries.mapM fun e =>
        do return (e, ← (records.map (c.view level)).mapM fun r => f r e.rule)) := by
  induction h with
  | nil => exact ⟨.nil, by simp⟩
  | @cons e t entries ranked he _ ih =>
    obtain ⟨⟨ht, rfl⟩, hmem⟩ := List.forall_mem_cons.1 hmem
    rw [List.mapM_cons]
    refine (ends_entry hf he ht).bind fun res hres => Ends.bind (ih hmem) fun results hresults => ?_
    refine ⟨.cons ?_ hresults.1, List.forall_mem_cons.2 ⟨hres.2, hresults.2⟩⟩
    rw [hres.1]
    exact ⟨he, rfl⟩

/-- **A level adds the tags of the course.** -/
theorem ends_runLevel (hf : Evaluates c.registry f outcome result) {entries : List Entry}
    (h : List.Forall₂ (fun e (t : Tag × Nat) => StandsFor ts c.registry e t.1) entries
      (c.ranked.filter (·.2 = level))) :
    Ends (fun out => out.1 = c.lists records (level + 1) ∧
        List.Forall₂ (Gives ts c records result) (c.ranked.filter (·.2 = level)) out.2 ∧
        ∀ t ∈ c.ranked.filter (·.2 = level), ∀ r ∈ records,
          t.1.rule.Defined c.registry (c.view t.2 r))
      (fun _ => ¬c.Defined records)
      (runLevel f outcome records (c.lists records level) entries) := by
  have hmem : ∀ t ∈ c.ranked.filter (·.2 = level), t ∈ c.ranked ∧ t.2 = level := by
    intro t ht
    simpa using List.mem_filter.1 ht
  unfold runLevel
  rw [Course.withTagLists_lists]
  refine (ends_entries hf h hmem).bind fun results hresults => ⟨?_, ?_, hresults.2⟩
  · have hfold : ∀ {ranked : List (Tag × Nat)} {results : List (Entry × List β)},
        (∀ t ∈ ranked, t.2 = level) →
        List.Forall₂ (fun (t : Tag × Nat) res => StandsFor ts c.registry res.1 t.1 ∧
          res.2 = records.map fun r => result t.1.rule (c.view t.2 r)) ranked results →
        ∀ lists : List (List String),
          results.foldl (fun lists res => addTags res.1.name (res.2.map outcome) lists) lists =
            ranked.foldl (fun lists t => addTags t.1.name
              (records.map fun r => t.1.rule.holds c.registry (c.view level r)) lists) lists := by
      intro ranked results hlevel hresults
      induction hresults with
      | nil => exact fun _ => rfl
      | @cons t res ranked results hres _ ih =>
        obtain ⟨rfl, hlevel⟩ := List.forall_mem_cons.1 hlevel
        intro lists
        rw [List.foldl_cons, List.foldl_cons, hres.1.name, hres.2, List.map_map]
        simp only [Function.comp_def, hf.outcome_result]
        exact ih hlevel _
    show results.foldl (fun lists res => addTags res.1.name (res.2.map outcome) lists) _ = _
    rw [hfold (fun t ht => (hmem t ht).2) hresults.1]
    exact foldl_addTags (fun t : Tag × Nat => t.1.name)
      (fun t r => t.1.rule.holds c.registry (c.view level r)) _ _
  · rw [List.forall₂_map_right_iff]
    exact hresults.1.imp fun t res hres => ⟨hres.1.index, hres.2⟩

/-- **All levels add the tags of the course.** -/
theorem ends_runLevels (hf : Evaluates c.registry f outcome result) (records : RecordSet)
    (entries : Nat → List Entry)
    (h : ∀ level, List.Forall₂ (fun e (t : Tag × Nat) => StandsFor ts c.registry e t.1)
      (entries level) (c.ranked.filter (·.2 = level))) (count : Nat) : ∀ first : Nat,
    Ends (fun out => out.1 = c.lists records (first + count) ∧
        List.Forall₂ (Gives ts c records result)
          ((List.range' first count).flatMap fun level => c.ranked.filter (·.2 = level)) out.2 ∧
        ∀ t ∈ c.ranked, first ≤ t.2 → t.2 < first + count → ∀ r ∈ records,
          t.1.rule.Defined c.registry (c.view t.2 r))
      (fun _ => ¬c.Defined records)
      (runLevels f outcome records (c.lists records first)
        ((List.range' first count).map entries)) := by
  induction count with
  | zero => exact fun first => ⟨rfl, .nil, fun t _ hle hlt => absurd hle (by omega)⟩
  | succ count ih =>
    intro first
    rw [List.range'_succ, List.map_cons, runLevels, List.flatMap_cons]
    refine (ends_runLevel hf (h first)).bind fun out hout => ?_
    obtain ⟨lists, results⟩ := out
    obtain ⟨rfl, hresults, hdefined⟩ : lists = _ ∧ _ ∧ _ := hout
    refine (ih (first + 1)).bind fun more hmore => ⟨?_, ?_, fun t ht hle hlt => ?_⟩
    · rw [hmore.1, Nat.add_assoc, Nat.add_comm 1 count]
    · exact List.rel_append hresults hmore.2.1
    · by_cases hfirst : t.2 = first
      · exact hdefined t (List.mem_filter.2 ⟨ht, by simpa using hfirst⟩)
      · exact hmore.2.2 t ht (by omega) (by omega)

end

/-! ### Runs -/

/-- The number of levels that an engine goes through. -/
def levelCount (levels : List Nat) : Nat :=
  ((((List.range levels.length).zip levels).mergeSort fun a b => a.2 ≤ b.2).map fun e =>
    e.2 + 1).foldl max 0

theorem lt_levelCount {levels : List Nat} {level : Nat} (h : level ∈ levels) :
    level < levelCount levels := by
  obtain ⟨i, hi, rfl⟩ := List.mem_iff_getElem.1 h
  have hmem : (i, levels[i]) ∈ (List.range levels.length).zip levels := by
    refine List.mem_iff_getElem.2 ⟨i, by simpa using hi, by simp⟩
  refine (DependencyGraph.le_foldl_max _ 0).2 (levels[i] + 1) ?_
  refine List.mem_map.2 ⟨(i, levels[i]), ?_, rfl⟩
  exact List.mem_mergeSort.2 hmem

/-- The entries of all levels. -/
theorem levelsOf_map {α : Type} {xs : List α} {levels : List Nat}
    (hlength : levels.length = xs.length) :
    (levelsOf levels).map (·.filterMap (xs[·]?)) =
      (List.range' 0 (levelCount levels)).map fun level =>
        ((xs.zip levels).filter (·.2 = level)).map Prod.fst := by
  show ((List.range (levelCount levels)).map _).map _ = _
  rw [List.map_map, ← List.range_eq_range']
  refine List.map_congr_left fun level _ => ?_
  simp only [Function.comp]
  rw [DependencyGraph.filter_mergeSort, filterMap_getElem? hlength]

theorem run_eq {β : Type} (f : Record → Resolved → Except EvalError β) (outcome : β → Bool)
    {levels : List (List Nat)} {rules : List Resolved}
    (hrules : tags.tags.mapM (fun t => reg.resolve t.rule) = .ok rules) (records : RecordSet) :
    run f outcome ⟨tags, reg, options, levels⟩ records =
      (runLevels f outcome records (startLists records tags.names options.removeOldTags)
        (levels.map (·.filterMap ((entriesOf tags.tags rules 0)[·]?)))).mapError TaggingError.eval >>=
          fun out => .ok (records.withTagLists out.1, out.2) := by
  unfold run
  rw [hrules]
  rfl

/-- **A run takes the records through the course**, and gives the results of the tags level by
level, when every rule can be evaluated. -/
theorem ends_run {β : Type} {f : Record → Resolved → Except EvalError β} {outcome : β → Bool}
    {result : Rule → Record → β} (hf : Evaluates reg f outcome result) {levels : List Nat}
    {height : Nat} (hvalid : tags.validate reg = .ok ())
    (hlength : levels.length = tags.tags.length) (hheight : ∀ level ∈ levels, level < height)
    (records : RecordSet) :
    Ends (fun out => out.1 = records.map ((tags.course reg options levels).view height) ∧
        List.Forall₂ (Gives tags.tags (tags.course reg options levels) records result)
          ((List.range (levelCount levels)).flatMap fun level =>
            (tags.course reg options levels).ranked.filter (·.2 = level)) out.2 ∧
        (tags.course reg options levels).Defined records)
      (fun _ => ¬(tags.course reg options levels).Defined records)
      (run f outcome ⟨tags, reg, options, levelsOf levels⟩ records) := by
  obtain ⟨rules, hrules⟩ := exists_mapM fun t ht =>
    Rule.exists_resolve_of_forall t.rule (TagSet.validateNode_of_validate hvalid ht)
  have hstands : List.Forall₂ (StandsFor tags.tags reg) (entriesOf tags.tags rules 0) tags.tags :=
    forall₂_entriesOf (forall₂_of_mapM hrules) []
  have hentries : levels.length = (entriesOf tags.tags rules 0).length := by
    rw [hlength, hstands.length_eq]
  rw [run_eq _ _ hrules, levelsOf_map hentries, startLists_eq]
  have hlevels := ends_runLevels (c := tags.course reg options levels) hf records _
    (fun level => forall₂_filter hstands level levels) (levelCount levels) 0
  refine Ends.bind (Ends.mapError hlevels) fun out hout => ⟨?_, ?_, fun r hr e he => ?_⟩
  · have hranked : ∀ count, (∀ level ∈ levels, level < count) →
        ∀ e ∈ (tags.course reg options levels).ranked, e.2 < count :=
      fun count h e he => h e.2 (List.of_mem_zip he).2
    show records.withTagLists out.1 = _
    rw [hout.1, Nat.zero_add, Course.withTagLists_lists]
    refine List.map_congr_left fun r _ => ?_
    -- There are no tags between the last level and any height above all levels.
    have hcount := hranked (levelCount levels) fun level h => lt_levelCount h
    rw [Course.view, Course.view]
    rcases Nat.le_total height (levelCount levels) with hle | hle
    · rw [Course.tagsAt_eq_of_le hle fun e he => .inl (hranked height hheight e he)]
    · rw [Course.tagsAt_eq_of_le hle fun e he => .inl (hcount e he)]
  · rw [List.range_eq_range']
    exact hout.2.1
  · have hlt := lt_levelCount (List.of_mem_zip he).2
    exact hout.2.2 e he (Nat.zero_le _) (by omega) r hr

/-- **An engine succeeds when every rule can be evaluated**, and then it takes the records through
the course. -/
theorem ends_tagRecords {levels : List Nat} {height : Nat} (hvalid : tags.validate reg = .ok ())
    (hlength : levels.length = tags.tags.length) (hheight : ∀ level ∈ levels, level < height)
    (records : RecordSet) :
    Ends (fun out => out = records.map ((tags.course reg options levels).view height) ∧
        (tags.course reg options levels).Defined records)
      (fun _ => ¬(tags.course reg options levels).Defined records)
      (tagRecords ⟨tags, reg, options, levelsOf levels⟩ records) :=
  Ends.map <| (ends_run (evaluates_evaluate reg) hvalid hlength hheight records).mono
    (fun _ h => ⟨h.1, h.2.2⟩) fun _ h => h

end TagRules.LinearEngine
