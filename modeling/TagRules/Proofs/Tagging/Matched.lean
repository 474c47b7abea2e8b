import TagRules.Proofs.NeverMatched
import TagRules.Proofs.Tagging.Observed

/-!
# Match reports are faithful

A run that observes its rules is a run: the observations do not get in the way of the tagging. The
report on a tag is folded from the evaluations of its rule on all records, with the tag lists that the
level of the tag sees, and so it says of every node on how many of these the node is true.

* `fst_runLevel`, `fst_runLevels`, `fst_run`: a run that observes gives what a plain run gives.
* `fst_matchReports`: so do match reports, with the same errors.
* `matchReports_fold`: the report on a tag, as a fold.
* `matchReports_faithful`: match reports count faithfully.
-/

namespace TagRules.LinearEngine

open Outcome

/-! ### Observing does not disturb -/

section

variable {β : Type} {f : Record → Resolved → Except EvalError β} {outcome : β → Bool}
  {g : Record → Resolved → Except EvalError Bool}

/-- **What a level makes of the tag lists**: only the outcomes of the rules matter. -/
theorem fst_runLevel_eq (f : Record → Resolved → Except EvalError β) (outcome : β → Bool)
    (records : RecordSet) (lists : List (List String)) (level : List Entry) :
    Prod.fst <$> runLevel f outcome records lists level =
      List.foldl (fun lists x => addTags x.1.name x.2 lists) lists <$>
        level.mapM fun e => (fun mask => (e, mask)) <$>
          (records.withTagLists lists).mapM fun r => outcome <$> f r e.rule := by
  have houtcomes : (level.mapM fun e => (fun mask => (e, mask)) <$>
        (records.withTagLists lists).mapM fun r => outcome <$> f r e.rule) =
      List.map (fun x => (x.1, x.2.map outcome)) <$> level.mapM fun e => do
        return (e, ← (records.withTagLists lists).mapM fun r => f r e.rule) := by
    rw [map_mapM]
    congr 1
    funext e
    rw [← map_mapM]
    cases (records.withTagLists lists).mapM fun r => f r e.rule <;> rfl
  rw [houtcomes]
  show Prod.fst <$> ((level.mapM fun e => do
    return (e, ← (records.withTagLists lists).mapM fun r => f r e.rule)) >>= _) = _
  cases level.mapM fun e => do
    return (e, ← (records.withTagLists lists).mapM fun r => f r e.rule) with
  | error e => rfl
  | ok results =>
    refine congrArg Except.ok ?_
    rw [List.foldl_map]

/-- **A level that observes** adds the tags that a plain level adds. -/
theorem fst_runLevel (hfg : ∀ x p, outcome <$> f x p = g x p) (records : RecordSet)
    (lists : List (List String)) (level : List Entry) :
    Prod.fst <$> runLevel f outcome records lists level =
      Prod.fst <$> runLevel g id records lists level := by
  simp only [fst_runLevel_eq, hfg, id_map]

theorem fst_runLevels_cons (f : Record → Resolved → Except EvalError β) (outcome : β → Bool)
    (records : RecordSet) (lists : List (List String)) (level : List Entry)
    (rest : List (List Entry)) :
    Prod.fst <$> runLevels f outcome records lists (level :: rest) = (do
      let lists ← Prod.fst <$> runLevel f outcome records lists level
      Prod.fst <$> runLevels f outcome records lists rest) := by
  rw [runLevels]
  cases runLevel f outcome records lists level with
  | error e => rfl
  | ok out =>
    show Prod.fst <$> (runLevels f outcome records out.1 rest >>= _) =
      Prod.fst <$> runLevels f outcome records out.1 rest
    cases runLevels f outcome records out.1 rest <;> rfl

/-- So do all levels. -/
theorem fst_runLevels (hfg : ∀ x p, outcome <$> f x p = g x p) (records : RecordSet)
    (levels : List (List Entry)) : ∀ lists : List (List String),
      Prod.fst <$> runLevels f outcome records lists levels =
        Prod.fst <$> runLevels g id records lists levels := by
  induction levels with
  | nil => exact fun _ => rfl
  | cons level rest ih =>
    intro lists
    simp only [fst_runLevels_cons, fst_runLevel hfg, ih]

/-- **What a run makes of the records**: they get the tag lists that all levels leave. -/
theorem fst_run_eq (f : Record → Resolved → Except EvalError β) (outcome : β → Bool)
    (engine : LinearEngine) (records : RecordSet) :
    Prod.fst <$> run f outcome engine records = (do
      let rules ← (engine.tags.tags.mapM fun t => engine.registry.resolve t.rule).mapError .eval
      let levels := engine.levels.map (·.filterMap ((entriesOf engine.tags.tags rules 0)[·]?))
      let start := startLists records engine.tags.names engine.options.removeOldTags
      records.withTagLists <$> (Prod.fst <$> runLevels f outcome records start levels).mapError
        TaggingError.eval) := by
  show Prod.fst <$> ((engine.tags.tags.mapM fun t => engine.registry.resolve t.rule).mapError
    TaggingError.eval >>= _) = _
  cases engine.tags.tags.mapM fun t => engine.registry.resolve t.rule with
  | error e => rfl
  | ok rules =>
    have hrecords : ∀ x : Except EvalError (List (List String) × List (Nat × List β)),
        Prod.fst <$> (x.mapError TaggingError.eval >>= fun out =>
          .ok (records.withTagLists out.1, out.2)) =
        records.withTagLists <$> (Prod.fst <$> x).mapError TaggingError.eval := by
      intro x
      cases x <;> rfl
    exact hrecords _

/-- **A run that observes gives what a plain run gives**, and fails with the same error. -/
theorem fst_run (hfg : ∀ x p, outcome <$> f x p = g x p) (engine : LinearEngine)
    (records : RecordSet) :
    Prod.fst <$> run f outcome engine records = Prod.fst <$> run g id engine records := by
  simp only [fst_run_eq, fst_runLevels hfg]

end

/-- **Match reports come with the records that plain tagging gives**, or fail with its error. -/
theorem fst_matchReports (engine : LinearEngine) (records : RecordSet) :
    Prod.fst <$> engine.matchReports records = engine.tagRecords records := by
  have hrun : Prod.fst <$> run Resolved.observe Evaluation.outcome engine records =
      engine.tagRecords records :=
    fst_run (fun _ p => Resolved.outcome_observeAt p []) engine records
  rw [← hrun]
  show Prod.fst <$> (run Resolved.observe Evaluation.outcome engine records >>= _) = _
  cases run Resolved.observe Evaluation.outcome engine records <;> rfl

/-! ### The report on a tag -/

variable {tags : TagSet} {reg : Registry} {options : TaggingOptions}

/-- **The report on a tag** is folded from the evaluations of its rule on all records, with the tag
lists that the level of the tag sees. -/
theorem matchReports_fold {levels : List Nat} (hvalid : tags.validate reg = .ok ())
    (hlength : levels.length = tags.tags.length) {records out : RecordSet}
    {reports : List (String × MatchReport)}
    (h : matchReports ⟨tags, reg, options, levelsOf levels⟩ records = .ok (out, reports)) :
    reports.map Prod.fst = tags.names ∧ ∀ (i : Nat) (t : Tag) (level : Nat),
      tags.tags[i]? = some t → levels[i]? = some level → ∃ es,
        (records.map ((tags.course reg options levels).view level)).mapM
          (fun x => t.rule.observe x reg) = .ok es ∧
        reports[i]? = some (t.name, es.foldl MatchReport.record .empty) := by
  obtain ⟨⟨tagged, results⟩, hrun, h⟩ := bind_eq_ok_iff.1 h
  cases h
  have hheight : ∀ level ∈ levels, level < levelCount levels := fun _ h => lt_levelCount h
  obtain ⟨-, hgives, hdefined⟩ :=
    (ends_run (evaluates_observe reg) hvalid hlength hheight records).ok hrun
  refine ⟨?_, fun i t level ht hlevel => ?_⟩
  · rw [List.map_map]
    show tags.tags.zipIdx.map (Tag.name ∘ Prod.fst) = tags.tags.map Tag.name
    rw [← List.map_map, List.zipIdx_map_fst]
  have he : (t, level) ∈ (tags.course reg options levels).ranked :=
    List.mem_of_getElem? (List.getElem?_zip_eq_some.2 ⟨ht, hlevel⟩)
  refine ⟨_, mapM_eq_ok_map (v := t.rule.observed reg) fun x hx => ?_, ?_⟩
  · obtain ⟨r, hr, rfl⟩ := List.mem_map.1 hx
    exact Rule.observe_of_defined (hdefined r hr _ he)
  · rw [List.getElem?_map, List.getElem?_zipIdx, ht, List.map_map]
    simp only [Option.map_some, Nat.zero_add, lookup_results hlength hgives he ht,
      Option.getD_some]
    rfl

/-- **Match reports count faithfully.** However the evaluations of a rule on some records are ordered,
their report counts the rule on these records. And match reports of tags come with the records that
plain tagging gives, or fail with its error; the report on a tag is made from the evaluations of its
rule on all records, with the tag lists that the level of the tag sees. -/
theorem matchReports_faithful (reg : Registry) :
    (∀ (r : Rule) (records : RecordSet) (es es' : List Evaluation), records ≠ [] →
      records.mapM (fun x => r.observe x reg) = .ok es → es'.Perm es →
      (es'.foldl MatchReport.record .empty).CountsOn reg r records) ∧
    ∀ (tags : TagSet) (options : TaggingOptions) (engine : LinearEngine),
      make tags reg options = .ok engine → ∀ records : RecordSet,
        Prod.fst <$> engine.matchReports records = engine.tagRecords records ∧
        ∃ levels, (DependencyGraph.ofTags tags).removeCycles.1.levels = .ok levels ∧
          ∀ out reports, engine.matchReports records = .ok (out, reports) →
            reports.map Prod.fst = tags.names ∧ ∀ (i : Nat) (t : Tag) (level : Nat),
              tags.tags[i]? = some t → levels[i]? = some level → ∃ es,
                (records.map ((tags.course reg options levels).view level)).mapM
                  (fun x => t.rule.observe x reg) = .ok es ∧
                reports[i]? = some (t.name, es.foldl MatchReport.record .empty) := by
  refine ⟨fun r records es es' => MatchReport.countsOn_of_perm, fun tags options engine h records => ?_⟩
  obtain ⟨hvalid, levels, hlevels, rfl⟩ := make_ok h
  exact ⟨fst_matchReports _ records, levels, hlevels, fun out reports =>
    matchReports_fold hvalid (DependencyGraph.length_levels_ofTags hlevels)⟩

/-- Somebody with a name, and a guest of an earlier run who is eighteen. -/
def visitors : RecordSet :=
  [Record.empty.insert "name" (.string "Ada"),
    (Record.empty.withTags ["guest"]).insert "age" (.int 18)]

theorem matchReports_faithful_circularTags : ∃ es engine out reports,
    visitors.mapM (fun x => guestTag.rule.observe x namedRegistry) = .ok es ∧
    (es.reverse.foldl MatchReport.record .empty).CountsOn namedRegistry guestTag.rule visitors ∧
    make circularTags namedRegistry ⟨false⟩ = .ok engine ∧
    engine.matchReports visitors = .ok (out, reports) ∧
    engine.tagRecords visitors = .ok out ∧ reports.map Prod.fst = ["member", "guest"] := by
  obtain ⟨es, hes⟩ : ∃ es,
      visitors.mapM (fun x => guestTag.rule.observe x namedRegistry) = .ok es := ⟨_, rfl⟩
  have hcounts := (matchReports_faithful namedRegistry).1 guestTag.rule visitors es es.reverse
    (by decide) hes es.reverse_perm
  obtain ⟨engine, hmake⟩ : ∃ engine,
      make circularTags namedRegistry ⟨false⟩ = .ok engine := ⟨_, rfl⟩
  obtain ⟨hplain, levels, hlevels, hreports⟩ :=
    (matchReports_faithful namedRegistry).2 circularTags ⟨false⟩ engine hmake visitors
  obtain ⟨-, levels', hlevels', rfl⟩ := make_ok hmake
  cases hlevels.symm.trans hlevels'
  have htwo : (DependencyGraph.ofTags circularTags).removeCycles.1.levels = .ok [0, 1] := rfl
  cases hlevels.symm.trans htwo
  -- The sort does not reduce, but there is nothing to sort.
  have hsorted : levelsOf [0, 1] = [[0], [1]] := by
    rw [levelsOf, List.mergeSort_of_pairwise (by decide)]
    rfl
  obtain ⟨⟨out, reports⟩, hrun⟩ : ∃ out, matchReports ⟨circularTags, namedRegistry, ⟨false⟩,
      levelsOf [0, 1]⟩ visitors = .ok out := by
    rw [hsorted]
    exact ⟨_, rfl⟩
  refine ⟨es, _, out, reports, hes, hcounts, hmake, hrun, ?_, (hreports out reports hrun).1⟩
  rw [← hplain, hrun]
  rfl

end TagRules.LinearEngine
