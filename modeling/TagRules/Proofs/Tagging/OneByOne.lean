import TagRules.Proofs.Tagging.Extended
import TagRules.Proofs.Tagging.Model
import TagRules.Proofs.Tagging.Output
import TagRules.Proofs.Tagging.Reordered
import TagRules.Proofs.Tagging.Repeated
import TagRules.Tagging.Query

/-!
# Tagging one tag at a time

Where tags only test membership and do not depend on each other in a circle, they can be brought up
to date one at a time, in the order of their levels. A tag then sees outdated entries of the later
tags and fresh entries of its own level, but it depends on tags of lower levels only, whose entries
are the final ones.

* `Record.retagged`: a record with one tag brought up to date.
* `ends_tagWith`: what bringing one tag up to date makes of records.
* `RecordSet.tagOneByOne`: the records with some tags brought up to date.
* `Course.tagsAfter`: the tag list of a record once some of the tags are up to date.
* `Course.retagged_tagsAfter`: the next tag takes this list one step on.
* `ends_tagOneByOne`: all tags, one at a time, take the records through their course.
* `tagOneByOne_agree`: tagging one tag at a time agrees with tagging all at once.
-/

namespace TagRules

open Outcome

/-! ### One tag -/

theorem Record.tags_withTags (r : Record) (tags : List String) : (r.withTags tags).tags = tags := by
  rw [Record.tags, r.get_withTags, Value.strings_ofStrings]

theorem Record.withTags_withTags (r : Record) (tags tags' : List String) :
    (r.withTags tags).withTags tags' = r.withTags tags' :=
  (r.agreesOffTags_withTags tags).symm.withTags_eq tags'

/-- **A record with one tag brought up to date**: without the tag, or with the tag at the end of the
list if the rule holds of the record without it. -/
def Record.retagged (reg : Registry) (t : Tag) (r : Record) : Record :=
  r.withTags ((r.withoutTag t.name).tags ++
    if t.rule.holds reg (r.withoutTag t.name) then [t.name] else [])

theorem tags_withoutTag (r : Record) (name : String) :
    (r.withoutTag name).tags = r.tags.filter (· ≠ name) :=
  r.tags_withTags _

variable {tags : TagSet} {reg : Registry} {options : TaggingOptions} {levels : List Nat} {t : Tag}

theorem startTags_singleton (name : String) (r : Record) :
    startTags [name] true r = (r.withoutTag name).tags := by
  rw [startTags, if_pos rfl, tags_withoutTag]
  refine List.filter_congr fun tag _ => ?_
  simp

/-- The mask of a valid rule says of which records it holds. -/
theorem ends_index {records : RecordSet} {r : Rule} (hvalid : reg.validate r = .ok ()) :
    Ends (fun mask => mask = records.map (r.holds reg) ∧ ∀ x ∈ records, r.Defined reg x)
      (fun _ => ¬∀ x ∈ records, r.Defined reg x) (records.index r reg) := by
  obtain ⟨p, hp⟩ := Rule.exists_resolve_of_forall r (Rule.validateNode_of_validate hvalid)
  have hdefined : ∀ x, r.Defined reg x ↔ ∃ b, p.evaluate x = .ok b := fun x => by
    rw [Rule.Defined, Rule.evaluate_of_resolve hp]
  unfold RecordSet.index
  rw [hvalid, hp]
  show Ends _ _ ((records.mapM fun x => p.evaluate x).mapError TaggingError.eval)
  refine Ends.mapError (Ends.mono (Ends.rows (v := r.holds reg) fun x _ b hb => ?_)
    (fun mask hmask => ?_) ?_)
  · rw [← Rule.evaluate_of_resolve hp] at hb
    exact (Rule.holds_of_evaluate hb).symm
  · exact ⟨hmask.1, fun x hx => (hdefined x).2 (hmask.2 x hx)⟩
  · rintro _ ⟨x, hx, hfails⟩ hall
    exact hfails ((hdefined x).1 (hall x hx))

/-- **What bringing one tag up to date makes of records.** -/
theorem ends_tagWith (hvalid : reg.validate t.rule = .ok ()) (records : RecordSet) :
    Ends (fun out => out = records.map (Record.retagged reg t) ∧
        ∀ r ∈ records, t.rule.Defined reg (r.withoutTag t.name))
      (fun _ => ¬∀ r ∈ records, t.rule.Defined reg (r.withoutTag t.name))
      (records.tagWith t reg true) := by
  have hlists : startLists records [t.name] true =
      records.map fun r => (r.withoutTag t.name).tags := by
    rw [startLists_eq]
    exact List.map_congr_left fun r _ => startTags_singleton t.name r
  have hrecords : records.withTagLists (startLists records [t.name] true) =
      records.map (·.withoutTag t.name) := by
    rw [hlists, RecordSet.withTagLists, List.zipWith_map_right, List.zipWith_self]
    refine List.map_congr_left fun r _ => ?_
    rw [tags_withoutTag, Record.withoutTag]
  have hindex : Ends _ _ (RecordSet.index (records.map (·.withoutTag t.name)) t.rule reg) :=
    ends_index hvalid
  simp only [List.forall_mem_map, List.map_map] at hindex
  show Ends _ _ ((records.withTagLists (startLists records [t.name] true)).index t.rule reg >>=
    fun mask => .ok (records.withTagLists (addTags t.name mask (startLists records [t.name] true))))
  rw [hrecords, hlists]
  refine hindex.bind fun mask hmask => ⟨?_, hmask.2⟩
  rw [hmask.1, addTags_map, RecordSet.withTagLists, List.zipWith_map_right, List.zipWith_self]
  refine List.map_congr_left fun r _ => congrArg r.withTags ?_
  show (if t.rule.holds reg (r.withoutTag t.name) then _ else _) = _
  split
  · -- The tag was removed before, so it goes to the end.
    refine addTag_of_not_mem fun hmem => ?_
    rw [tags_withoutTag] at hmem
    simpa using (List.mem_filter.1 hmem).2
  · exact (List.append_nil _).symm

/-- Only the tags and the other fields of a record matter. -/
theorem tagWith_map_withTags (records : RecordSet) (t : Tag) (reg : Registry) (remove : Bool) :
    RecordSet.tagWith (records.map fun r => r.withTags r.tags) t reg remove =
      records.tagWith t reg remove := by
  have hstart : startLists (records.map fun r => r.withTags r.tags) [t.name] remove =
      startLists records [t.name] remove := by
    rw [startLists_eq, startLists_eq, List.map_map]
    refine List.map_congr_left fun r _ => ?_
    rw [Function.comp_apply, startTags, startTags, r.tags_withTags]
  have hrecords : ∀ lists, RecordSet.withTagLists (records.map fun r => r.withTags r.tags) lists =
      records.withTagLists lists := by
    intro lists
    rw [RecordSet.withTagLists, RecordSet.withTagLists, List.zipWith_map_left]
    simp only [Record.withTags_withTags]
  unfold RecordSet.tagWith
  simp only [hstart, hrecords]

/-! ### Some of the tags -/

namespace Course

variable {c : Course} {r : Record} {pre post : List (Tag × Nat)} {e : Tag × Nat}

/-- **The tag list of a record once some tags are up to date**: what it had besides them, and those
of them whose rules hold at their levels. -/
def tagsAfter (c : Course) (pre : List (Tag × Nat)) (r : Record) : List String :=
  r.tags.filter (· ∉ pre.map (·.1.name)) ++
    (pre.filter fun e => e.1.rule.holds c.registry (c.view e.2 r)).map (·.1.name)

theorem tagsAfter_nil (r : Record) : c.tagsAfter [] r = r.tags := by
  simp [tagsAfter]

/-- The next tag is first taken from the list, where it can only be outdated. -/
theorem filter_tagsAfter (hnew : e.1.name ∉ pre.map (·.1.name)) :
    (c.tagsAfter pre r).filter (· ≠ e.1.name) =
      r.tags.filter (· ∉ (pre ++ [e]).map (·.1.name)) ++
        (pre.filter fun e => e.1.rule.holds c.registry (c.view e.2 r)).map (·.1.name) := by
  rw [tagsAfter, List.filter_append, List.filter_filter]
  congr 1
  · refine List.filter_congr fun tag _ => ?_
    rw [List.map_append, Bool.eq_iff_iff]
    simp only [Bool.and_eq_true, decide_eq_true_eq, List.mem_append, List.map_singleton,
      List.mem_singleton, not_or]
    exact and_comm
  · refine List.filter_eq_self.2 fun name hname => decide_eq_true fun heq => hnew ?_
    rw [← heq]
    exact (List.filter_sublist.map _).subset hname

/-- **The next tag takes the list one step on**, where its rule cannot tell the list from what its
level sees. -/
theorem retagged_tagsAfter (hnew : e.1.name ∉ pre.map (·.1.name))
    (hsame : e.1.rule.holds c.registry (r.withTags ((c.tagsAfter pre r).filter (· ≠ e.1.name))) =
      e.1.rule.holds c.registry (c.view e.2 r)) :
    (r.withTags (c.tagsAfter pre r)).retagged c.registry e.1 =
      r.withTags (c.tagsAfter (pre ++ [e]) r) := by
  rw [Record.retagged, Record.withoutTag, Record.tags_withTags, Record.withTags_withTags,
    Record.tags_withTags, Record.withTags_withTags, hsame, filter_tagsAfter hnew, tagsAfter,
    List.append_assoc]
  refine congrArg r.withTags (congrArg (List.filter _ r.tags ++ ·) ?_)
  rw [List.filter_append, List.map_append, List.filter_singleton]
  cases e.1.rule.holds c.registry (c.view e.2 r) <;> rfl

end Course

/-! ### All tags -/

/-- The records with some tags brought up to date, one after the other. -/
def RecordSet.tagOneByOne (reg : Registry) (order : List Tag) (records : RecordSet) :
    Except TaggingError RecordSet :=
  order.foldlM (fun (records : RecordSet) t => records.tagWith t reg true) records

section

variable {r : Record} {pre post : List (Tag × Nat)} {e : Tag × Nat} {height : Nat}

/-- Without cycles, no dependency is dropped. -/
theorem levels_of_acyclic (hacyclic : ∀ cycle, ¬(DependencyGraph.ofTags tags).IsCycle cycle)
    (hlevels : (DependencyGraph.ofTags tags).levels = .ok levels) :
    (DependencyGraph.ofTags tags).removeCycles.1.levels = .ok levels ∧
      (DependencyGraph.ofTags tags).removeCycles.2 = [] := by
  rw [DependencyGraph.removeCycles_eq_self hacyclic]
  exact ⟨hlevels, rfl⟩

theorem TagSet.InLevelOrder.names_perm {order : List (Tag × Nat)}
    (horder : tags.InLevelOrder levels order) : (order.map (·.1.name)).Perm tags.names := by
  have hnames := horder.complete.map Tag.name
  rwa [List.map_map] at hnames

theorem TagSet.InLevelOrder.mem_of_ranked (hlength : levels.length = tags.tags.length)
    {order : List (Tag × Nat)} (horder : tags.InLevelOrder levels order)
    (he : e ∈ tags.tags.zip levels) : e ∈ order := by
  obtain ⟨e', he', heq⟩ := List.mem_map.1 (horder.complete.mem_iff.2 (List.of_mem_zip he).1)
  have hname : e'.1.name = e.1.name := by rw [heq]
  cases eq_of_name_eq hlength (horder.ranked e' he') he hname
  exact he'

/-- A tag of a lower level comes before. -/
theorem TagSet.InLevelOrder.mem_pre (hlength : levels.length = tags.tags.length)
    {order : List (Tag × Nat)} (horder : tags.InLevelOrder levels order)
    (hsplit : order = pre ++ e :: post) {e' : Tag × Nat} (he' : e' ∈ tags.tags.zip levels)
    (hlt : e'.2 < e.2) : e' ∈ pre := by
  have hmem : e' ∈ order := horder.mem_of_ranked hlength he'
  have hsorted := horder.sorted
  rw [hsplit] at hmem hsorted
  have hlater : ∀ e'' ∈ e :: post, e.2 ≤ e''.2 := by
    refine List.forall_mem_cons.2 ⟨Nat.le_refl _, fun e'' he'' => ?_⟩
    have := (List.pairwise_cons.1 (List.pairwise_append.1 hsorted).2.1).1 e'' he''
    omega
  refine (List.mem_append.1 hmem).resolve_right fun h => ?_
  exact absurd (hlater e' h) (by omega)

/-- **What a tag depends on is up to date** once the tags before it are. -/
theorem mem_tagsAfter_iff (hacyclic : ∀ cycle, ¬(DependencyGraph.ofTags tags).IsCycle cycle)
    (hlevels : (DependencyGraph.ofTags tags).levels = .ok levels)
    (hremove : options.removeOldTags = true) {order : List (Tag × Nat)}
    (horder : tags.InLevelOrder levels order) (hsplit : order = pre ++ e :: post) {name : String}
    (hname : name ∈ e.1.dependsOn) :
    name ∈ ((tags.course reg options levels).tagsAfter pre r).filter (· ≠ e.1.name) ↔
      name ∈ (tags.course reg options levels).tagsAt r e.2 := by
  obtain ⟨hkept, hremoved⟩ := levels_of_acyclic hacyclic hlevels
  have hlength := DependencyGraph.length_levels_ofTags hkept
  have he : e ∈ tags.tags.zip levels := horder.ranked e (by simp [hsplit])
  have hpre : ∀ e' ∈ pre, e' ∈ tags.tags.zip levels := fun e' he' =>
    horder.ranked e' (by simp [hsplit, he'])
  have hnames : ∀ e' ∈ pre, e'.1.name ∈ tags.names := fun e' he' =>
    List.mem_map_of_mem (List.of_mem_zip (hpre e' he')).1
  have hlower : ∀ e' ∈ tags.tags.zip levels, e'.1.name = name → e'.2 < e.2 := by
    rintro e' he' rfl
    exact level_lt_of_dependsOn hkept he' he hname (by simp [hremoved])
  have hne : name ≠ e.1.name := fun h => Nat.lt_irrefl _ (hlower e he h.symm)
  rw [List.mem_filter, and_iff_left (by simpa using hne), Course.tagsAfter, List.mem_append,
    List.mem_filter, decide_eq_true_eq]
  by_cases hmanaged : name ∈ tags.names
  · -- A tag of the set is among those before, and was added if its rule holds.
    obtain ⟨t', ht', rfl⟩ := List.mem_map.1 hmanaged
    obtain ⟨e', he', rfl⟩ : ∃ e' ∈ (tags.course reg options levels).ranked, e'.1 = t' :=
      TagSet.exists_mem_ranked hlength ht'
    have hlt : e'.2 < e.2 := hlower e' he' rfl
    have hmem : e' ∈ pre := horder.mem_pre hlength hsplit he' hlt
    rw [mem_tagsAt_iff_holds hremove hlength he' hlt]
    have hold : ¬(e'.1.name ∈ r.tags ∧ e'.1.name ∉ pre.map (·.1.name)) :=
      fun h => h.2 (List.mem_map_of_mem hmem)
    rw [or_iff_right hold]
    constructor
    · intro h
      obtain ⟨e'', he'', heq⟩ := List.mem_map.1 h
      obtain ⟨hmem'', hholds⟩ := List.mem_filter.1 he''
      cases eq_of_name_eq hlength (hpre e'' hmem'') he' heq
      exact hholds
    · exact fun hholds => List.mem_map_of_mem (List.mem_filter.2 ⟨hmem, hholds⟩)
  · -- Any other name is read from the record as it came in.
    have hfresh : ∀ e' ∈ pre, e'.1.name ≠ name := fun e' he' h => hmanaged (h ▸ hnames e' he')
    rw [Course.mem_tagsAt, startTags_of_remove hremove, List.mem_filter, decide_eq_true_eq]
    constructor
    · rintro (⟨hmem, -⟩ | h)
      · exact .inl ⟨hmem, hmanaged⟩
      · obtain ⟨e', he', heq⟩ := List.mem_map.1 h
        exact absurd heq (hfresh e' (List.mem_of_mem_filter he'))
    · rintro (⟨hmem, -⟩ | ⟨e', he', -, -, heq⟩)
      · refine .inl ⟨hmem, fun h => ?_⟩
        obtain ⟨e', he', heq⟩ := List.mem_map.1 h
        exact hfresh e' he' heq
      · exact absurd (heq ▸ List.mem_map_of_mem (List.of_mem_zip he').1) hmanaged

/-- Once all tags are up to date, the list is the one above all levels. -/
theorem tagsAfter_inOrder (hlength : levels.length = tags.tags.length)
    (hremove : options.removeOldTags = true) (hheight : ∀ level ∈ levels, level < height)
    (r : Record) :
    (tags.course reg options levels).tagsAfter
        ((tags.course reg options levels).inOrder height) r =
      (tags.course reg options levels).tagsAt r height := by
  have horder : tags.InLevelOrder levels ((tags.course reg options levels).inOrder height) :=
    TagSet.inLevelOrder_inOrder hlength hheight
  have hnames := horder.names_perm
  rw [Course.tagsAt_eq_append (TagSet.nodup_ranked hlength), ← Course.filter_inOrder,
    startTags_of_remove hremove, Course.tagsAfter]
  congr 1
  · exact List.filter_congr fun tag _ => decide_eq_decide.2 (not_congr hnames.mem_iff)
  · refine congrArg (List.map _) (List.filter_congr fun e he => ?_)
    have hmem : e.1.name ∈ tags.names := hnames.mem_iff.1 (List.mem_map_of_mem he)
    have hstart : e.1.name ∉ r.tags.filter (· ∉ tags.names) := fun h => by
      simpa [hmem] using (List.mem_filter.1 h).2
    rw [Bool.eq_iff_iff, decide_eq_true_eq, and_iff_right hstart]

/-- **All tags, one at a time, take the records through their course.** -/
theorem ends_tagOneByOne (hne : tags.tags ≠ [])
    (hacyclic : ∀ cycle, ¬(DependencyGraph.ofTags tags).IsCycle cycle)
    (hlevels : (DependencyGraph.ofTags tags).levels = .ok levels)
    (hvalid : tags.validate reg = .ok ()) (hreg : reg.IgnoresTags)
    (htests : ∀ t ∈ tags.tags, t.TestsStandardMembership reg)
    (hremove : options.removeOldTags = true) {order : List (Tag × Nat)}
    (horder : tags.InLevelOrder levels order) (records : RecordSet) :
    Ends (fun out => out = records.map (fun r =>
          r.withTags ((tags.course reg options levels).tagsAfter order r)) ∧
        (tags.course reg options levels).Defined records)
      (fun _ => ¬(tags.course reg options levels).Defined records)
      (records.tagOneByOne reg (order.map Prod.fst)) := by
  have hnodup : (order.map (·.1.name)).Nodup :=
    horder.names_perm.nodup_iff.2 tags.nodup
  have hstart : records.tagOneByOne reg (order.map Prod.fst) =
      order.foldlM (fun (records : RecordSet) (e : Tag × Nat) => records.tagWith e.1 reg true)
        (records.map fun r => r.withTags r.tags) := by
    rw [RecordSet.tagOneByOne, List.foldlM_map]
    cases order with
    | nil => exact absurd horder.complete.symm.eq_nil hne
    | cons e order => rw [List.foldlM_cons, List.foldlM_cons, tagWith_map_withTags]
  rw [hstart]
  refine Ends.mono (Ends.foldlM (fun pre rows => rows = records.map (fun r =>
      r.withTags ((tags.course reg options levels).tagsAfter pre r)) ∧
    ∀ e ∈ pre, ∀ r ∈ records, e.1.rule.Defined reg ((tags.course reg options levels).view e.2 r))
    ?_ fun pre e post rows hsplit hrows => ?_) ?_ fun _ h => h
  · refine ⟨List.map_congr_left fun r _ => ?_, fun e he => absurd he (by simp)⟩
    rw [Course.tagsAfter_nil]
  · obtain ⟨rfl, hbefore⟩ := hrows
    have he : e ∈ tags.tags.zip levels := horder.ranked e (by simp [hsplit])
    have ht : e.1 ∈ tags.tags := (List.of_mem_zip he).1
    have hnew : e.1.name ∉ pre.map (·.1.name) := by
      rw [hsplit, List.map_append, List.map_cons, List.nodup_append] at hnodup
      exact fun hmem => hnodup.2.2 _ hmem _ List.mem_cons_self rfl
    -- The tag sees other entries of later tags than its level does, but depends on none of them.
    have hreads : ∀ r : Record, ∀ name ∈ e.1.dependsOn,
        name ∈ ((tags.course reg options levels).tagsAfter pre r).filter (· ≠ e.1.name) ↔
          name ∈ (tags.course reg options levels).tagsAt r e.2 := fun r name hname =>
      mem_tagsAfter_iff hacyclic hlevels hremove horder hsplit hname
    have hdefined : ∀ r : Record, e.1.rule.Defined reg
        ((r.withTags ((tags.course reg options levels).tagsAfter pre r)).withoutTag e.1.name) ↔
        e.1.rule.Defined reg ((tags.course reg options levels).view e.2 r) := by
      intro r
      rw [Record.withoutTag, Record.tags_withTags, Record.withTags_withTags]
      exact Tag.defined_withTags_iff hreg (htests e.1 ht) (hreads r) r
    have hrule : reg.validate e.1.rule = .ok () := forM_eq_ok_iff.1 hvalid e.1 ht
    refine (ends_tagWith hrule _).mono (fun out hout => ?_) fun _ hfails hall => hfails ?_
    · obtain ⟨rfl, hrows⟩ := hout
      rw [List.forall_mem_map] at hrows
      refine ⟨?_, fun e' he' => ?_⟩
      · rw [List.map_map]
        refine List.map_congr_left fun r _ => Course.retagged_tagsAfter hnew ?_
        exact Tag.holds_withTags_eq hreg (htests e.1 ht) (hreads r) r
      · rcases List.mem_append.1 he' with he' | he'
        · exact hbefore e' he'
        · rw [List.mem_singleton.1 he']
          exact fun r hr => (hdefined r).1 (hrows r hr)
    · rw [List.forall_mem_map]
      exact fun r hr => (hdefined r).2 (hall r hr e he)
  · rintro out ⟨rfl, hall⟩
    have hlength := DependencyGraph.length_levels_ofTags (levels_of_acyclic hacyclic hlevels).1
    exact ⟨rfl, fun r hr e he => hall e (horder.mem_of_ranked hlength he) r hr⟩

/-! ### The order of the levels -/

/-- A list in the order of its levels, level by level. -/
theorem flatMap_filter_level {α : Type} {l : List (α × Nat)} (hsorted : l.Pairwise (·.2 ≤ ·.2))
    (hlt : ∀ e ∈ l, e.2 < height) :
    ((List.range height).flatMap fun level => l.filter (·.2 = level)) = l := by
  induction height generalizing l with
  | zero => exact (List.eq_nil_iff_forall_not_mem.2 fun e he => Nat.not_lt_zero _ (hlt e he)).symm
  | succ height ih =>
    have hsplit : l.filter (·.2 < height) ++ l.filter (·.2 = height) = l := by
      clear ih
      induction l with
      | nil => rfl
      | cons e l ih =>
        obtain ⟨hhead, hsorted⟩ := List.pairwise_cons.1 hsorted
        obtain ⟨he, hlt⟩ := List.forall_mem_cons.1 hlt
        by_cases hlow : e.2 < height
        · rw [List.filter_cons_of_pos (by simpa using hlow),
            List.filter_cons_of_neg (by simp; omega), List.cons_append, ih hsorted hlt]
        · -- Nothing behind a member of the highest level is lower.
          have htop : ∀ e' ∈ e :: l, e'.2 = height := by
            refine List.forall_mem_cons.2 ⟨by omega, fun e' he' => ?_⟩
            have := hhead e' he'
            have := hlt e' he'
            omega
          rw [List.filter_eq_nil_iff.2 fun e' he' => by simp [htop e' he'], List.nil_append,
            List.filter_eq_self.2 fun e' he' => by simp [htop e' he']]
    rw [List.range_succ, List.flatMap_append, List.flatMap_singleton]
    have hlow := ih (hsorted.filter (·.2 < height)) fun e he =>
      of_decide_eq_true (List.mem_filter.1 he).2
    have hsame : ((List.range height).flatMap fun level => l.filter (·.2 = level)) =
        (List.range height).flatMap fun level =>
          (l.filter (·.2 < height)).filter (·.2 = level) := by
      refine List.flatMap_congr fun level hlevel => ?_
      rw [List.filter_filter]
      refine List.filter_congr fun e _ => ?_
      have := List.mem_range.1 hlevel
      by_cases h : e.2 = level <;> simp [h, this]
    rw [hsame, hlow, hsplit]

/-- **The order of the levels**, as the tags with their positions. -/
theorem levelOrder_eq (hlevels : (DependencyGraph.ofTags tags).levels = .ok levels)
    (hlength : levels.length = tags.tags.length) (hheight : ∀ level ∈ levels, level < height) :
    (DependencyGraph.ofTags tags).levelOrder =
      .ok (((tags.course reg options levels).inOrder height).map fun e =>
        (tags.names.idxOf e.1.name, e.2)) := by
  let place : Tag × Nat → Nat × Nat := fun e => (tags.names.idxOf e.1.name, e.2)
  have hzip : (List.range (DependencyGraph.ofTags tags).size).zip levels =
      (tags.tags.zip levels).map place := by
    refine List.ext_getElem (by simp [DependencyGraph.size_ofTags]) fun i hi _ => ?_
    have hnodup : tags.names.Nodup := tags.nodup
    have hi' : i < tags.names.length := by simp_all [TagSet.names, DependencyGraph.size_ofTags]
    have hidx := hnodup.idxOf_getElem i hi'
    simpa [place, TagSet.names] using hidx.symm
  have hlt : ∀ e ∈ List.mergeSort ((List.range (DependencyGraph.ofTags tags).size).zip levels)
      fun a b => a.2 ≤ b.2, e.2 < height :=
    fun e he => hheight e.2 (List.of_mem_zip (List.mem_mergeSort.1 he)).2
  have hsorted := DependencyGraph.pairwise_mergeSort
    ((List.range (DependencyGraph.ofTags tags).size).zip levels)
  rw [DependencyGraph.levelOrder, hlevels]
  refine congrArg Except.ok ?_
  rw [← flatMap_filter_level hsorted hlt, Course.inOrder, List.map_flatMap]
  refine List.flatMap_congr fun level _ => ?_
  rw [DependencyGraph.filter_mergeSort, hzip, List.filter_map]
  rfl

end

/-- **Tagging one tag at a time agrees with tagging all at once**: the tags of a valid set without
cycles, which only test membership, can be brought up to date one after the other, in the order of
their levels and of declaration. On any records, whatever entries of later tags they carry, this
gives what a linear engine gives, or both fail. -/
theorem tagOneByOne_agree (hne : tags.tags ≠ [])
    (hacyclic : ∀ cycle, ¬(DependencyGraph.ofTags tags).IsCycle cycle)
    (hvalid : tags.validate reg = .ok ()) (hreg : reg.IgnoresTags)
    (htests : ∀ t ∈ tags.tags, t.TestsStandardMembership reg) :
    ∃ levels order engine, (DependencyGraph.ofTags tags).levels = .ok levels ∧
      tags.InLevelOrder levels order ∧
      (DependencyGraph.ofTags tags).levelOrder =
        .ok (order.map fun e => (tags.names.idxOf e.1.name, e.2)) ∧
      LinearEngine.make tags reg {} = .ok engine ∧ ∀ records : RecordSet,
        Agree (records.tagOneByOne reg (order.map Prod.fst)) (engine.tagRecords records) := by
  obtain ⟨engine, hmake⟩ := LinearEngine.exists_make hvalid {}
  obtain ⟨-, levels, hkept, rfl⟩ := LinearEngine.make_ok hmake
  have hlength := DependencyGraph.length_levels_ofTags hkept
  have hlevels := hkept
  rw [DependencyGraph.removeCycles_eq_self hacyclic] at hlevels
  have hheight : ∀ level ∈ levels, level < LinearEngine.levelCount levels :=
    fun level hlevel => LinearEngine.lt_levelCount hlevel
  let c := tags.course reg {} levels
  have horder : tags.InLevelOrder levels (c.inOrder (LinearEngine.levelCount levels)) :=
    TagSet.inLevelOrder_inOrder hlength hheight
  refine ⟨levels, c.inOrder (LinearEngine.levelCount levels), _, hlevels, horder,
    levelOrder_eq hlevels hlength hheight, hmake, fun records => ?_⟩
  have hstart : ({} : TaggingOptions).removeOldTags = true := rfl
  have hfold := ends_tagOneByOne hne hacyclic hlevels hvalid hreg htests hstart horder records
  have hviews : (records.map fun r =>
      r.withTags (c.tagsAfter (c.inOrder (LinearEngine.levelCount levels)) r)) =
        records.map (c.view (LinearEngine.levelCount levels)) :=
    List.map_congr_left fun r _ => congrArg r.withTags (tagsAfter_inOrder hlength rfl hheight r)
  rw [hviews] at hfold
  exact hfold.agreement (LinearEngine.ends_tagRecords hvalid hlength hheight records)

theorem tagOneByOne_agree_townTags : ∃ levels order engine,
    (DependencyGraph.ofTags townTags).levels = .ok levels ∧ townTags.InLevelOrder levels order ∧
    (DependencyGraph.ofTags townTags).levelOrder =
      .ok (order.map fun e => (townTags.names.idxOf e.1.name, e.2)) ∧
    LinearEngine.make townTags namedRegistry {} = .ok engine ∧ ∀ records : RecordSet,
      Agree (records.tagOneByOne namedRegistry (order.map Prod.fst))
        (engine.tagRecords records) := by
  have hlevels : (DependencyGraph.ofTags townTags).levels = .ok [1, 0] := rfl
  exact tagOneByOne_agree (by decide) (DependencyGraph.not_isCycle_of_levels hlevels) rfl
    ignoresTags_namedRegistry testsStandardMembership_townTags

end TagRules
