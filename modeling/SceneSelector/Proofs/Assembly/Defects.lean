import SceneSelector.Proofs.Assembly

/-!
# The first defect of a table

`Grammar.assemble` goes over a list of rules three times: for their names, for
the nodes of each rule, and for the root. `Grammar.FirstDefect` says which error
that gives without saying how it is found: what is in front of the fault has
none of its sort, and the whole list has none of the sorts that come first.
Where there is no fault of any sort the list is `Grammar.Sound`, and then it is
assembled as it stands (`assemble_iff`).
-/

namespace SceneSelector

/-- No branch is a reference. -/
theorem Rule.isComposite_of_target? {node : Rule} {target : String}
    (h : node.target? = some target) : node.isComposite = false := by
  cases node with
  | reference => rfl
  | _ => cases h

namespace Grammar

/-! ## What assembly asks for -/

/-- Each rule has a name, and it has that name alone. -/
structure DistinctlyNamed (rules : List Rule) : Prop where
  named : ∀ rule ∈ rules, rule.name ≠ none
  distinct : rules.Pairwise fun rule rule' => rule.name ≠ rule'.name

/-- There is nothing wrong with a list of rules and the name of their root. -/
structure Sound (rules : List Rule) (root : String) : Prop where
  distinctlyNamed : DistinctlyNamed rules
  wellFormed : ∀ rule ∈ rules, rule.WellFormed (rules.filterMap Rule.name)
  root_mem : root ∈ rules.filterMap Rule.name

/-- A rule cannot be registered behind rules that have the names `taken`. -/
inductive NameFault (taken : List String) (rule : Rule) : GrammarError → Prop where
  | unnamed (noName : rule.name = none) : NameFault taken rule .unnamed
  | duplicate {name : String} (named : rule.name = some name)
      (mem : name ∈ taken) : NameFault taken rule (.duplicateRule name)

/-- A node of the rule `owner` is a branch without rules, or it refers to none
of `names`. -/
inductive NodeFault (names : List String) (owner : String) (node : Rule) :
    GrammarError → Prop where
  | emptyComposite (composite : node.isComposite = true)
      (childless : node.children = []) :
      NodeFault names owner node (.emptyComposite owner)
  | unknownRule {target : String} (refers : node.target? = some target)
      (unknown : target ∉ names) :
      NodeFault names owner node (.unknownRule target owner)

/-- The error that a list of rules and the name of their root call for. Faults
of names come before faults of nodes, and these before a root that is missing;
of either sort it is the first fault in the order of the rules, and within a
rule in the order of the walk. -/
inductive FirstDefect (rules : List Rule) (root : String) :
    GrammarError → Prop where
  | name {before after : List Rule} {rule : Rule} {e : GrammarError}
      (split : rules = before ++ rule :: after)
      (earlier : DistinctlyNamed before)
      (fault : NameFault (before.filterMap Rule.name) rule e) :
      FirstDefect rules root e
  | node {before after passed rest : List Rule} {rule node : Rule}
      {owner : String} {e : GrammarError}
      (distinctlyNamed : DistinctlyNamed rules)
      (split : rules = before ++ rule :: after)
      (earlier : ∀ rule ∈ before, rule.WellFormed (rules.filterMap Rule.name))
      (owned : rule.name = some owner)
      (walk : rule.walk = passed ++ node :: rest)
      (intact : ∀ node ∈ passed, node.Intact (rules.filterMap Rule.name))
      (fault : NodeFault (rules.filterMap Rule.name) owner node e) :
      FirstDefect rules root e
  | root (distinctlyNamed : DistinctlyNamed rules)
      (wellFormed : ∀ rule ∈ rules, rule.WellFormed (rules.filterMap Rule.name))
      (missing : root ∉ rules.filterMap Rule.name) :
      FirstDefect rules root (.missingRoot root)

/-- The grammar holds the rules in their order, knows by each name the one rule
that has it and nothing by any other name, and starts from the rule `root`. -/
structure Registers (g : Grammar) (rules : List Rule) (root : String) : Prop where
  rules_eq : g.rules = rules
  get?_eq : ∀ name, (g.get? name).toList = rules.filter (·.name = some name)
  root_eq : g.get? root = some g.root

/-! ## Names -/

theorem DistinctlyNamed.nil : DistinctlyNamed [] :=
  ⟨nofun, .nil⟩

theorem distinctlyNamed_cons {rule : Rule} {rules : List Rule} :
    DistinctlyNamed (rule :: rules) ↔ ∃ name, rule.name = some name ∧
      name ∉ rules.filterMap Rule.name ∧ DistinctlyNamed rules := by
  constructor
  · rintro ⟨named, distinct⟩
    rw [List.forall_mem_cons] at named
    rw [List.pairwise_cons] at distinct
    obtain ⟨name, hname⟩ := Option.ne_none_iff_exists'.mp named.1
    refine ⟨name, hname, ?_, named.2, distinct.2⟩
    rw [List.mem_filterMap]
    rintro ⟨rule', hmem, hname'⟩
    exact distinct.1 rule' hmem (hname.trans hname'.symm)
  · rintro ⟨name, hname, hfresh, named, distinct⟩
    refine ⟨List.forall_mem_cons.mpr ⟨by simp [hname], named⟩, ?_⟩
    refine List.pairwise_cons.mpr ⟨fun rule' hmem heq => hfresh ?_, distinct⟩
    exact List.mem_filterMap.mpr ⟨rule', hmem, heq.symm.trans hname⟩

theorem nameFault_iff {taken : List String} {rule : Rule} {e : GrammarError} :
    NameFault taken rule e ↔ rule.name = none ∧ e = .unnamed ∨
      ∃ name, rule.name = some name ∧ name ∈ taken ∧ e = .duplicateRule name := by
  constructor
  · rintro (noName | ⟨named, mem⟩)
    · exact .inl ⟨noName, rfl⟩
    · exact .inr ⟨_, named, mem, rfl⟩
  · rintro (⟨noName, rfl⟩ | ⟨name, named, mem, rfl⟩)
    · exact .unnamed noName
    · exact .duplicate named mem

/-- It does not matter in which order the names were taken. -/
theorem nameFault_append_cons {name : String} {taken seen : List String}
    {rule : Rule} {e : GrammarError} :
    NameFault (taken ++ name :: seen) rule e ↔
      NameFault (name :: taken ++ seen) rule e := by
  simp only [nameFault_iff, List.mem_append, List.mem_cons, List.cons_append,
    or_left_comm]

theorem nameDefect?_nil (seen : List String) : nameDefect? seen [] = none :=
  rfl

/-- A rule with a new name is passed, and its name is taken from then on. -/
theorem nameDefect?_cons_of_fresh {seen : List String} {name : String}
    {rule : Rule} (hname : rule.name = some name) (hfresh : name ∉ seen)
    (rules : List Rule) :
    nameDefect? seen (rule :: rules) = nameDefect? (name :: seen) rules := by
  simp only [nameDefect?, hname, hfresh, if_false]

/-- Any other rule is where the search ends. -/
theorem nameDefect?_cons_eq_some_iff {seen : List String} {rule : Rule}
    (h : ∀ name, rule.name = some name → name ∈ seen) (rules : List Rule)
    {e : GrammarError} :
    nameDefect? seen (rule :: rules) = some e ↔ NameFault seen rule e := by
  rw [nameDefect?, nameFault_iff]
  cases hname : rule.name with
  | none => simp [eq_comm]
  | some name => simp [h name hname, eq_comm]

theorem nameDefect?_cons_ne_none {seen : List String} {rule : Rule}
    (h : ∀ name, rule.name = some name → name ∈ seen) (rules : List Rule) :
    nameDefect? seen (rule :: rules) ≠ none := by
  rw [nameDefect?]
  cases hname : rule.name with
  | none => simp
  | some name => simp [h name hname]

theorem nameDefect?_eq_none_iff {seen : List String} {rules : List Rule} :
    nameDefect? seen rules = none ↔ DistinctlyNamed rules ∧
      ∀ name ∈ rules.filterMap Rule.name, name ∉ seen := by
  induction rules generalizing seen with
  | nil => exact iff_of_true rfl ⟨.nil, by simp⟩
  | cons rule rules ih =>
    rw [distinctlyNamed_cons]
    by_cases hfresh : ∃ name, rule.name = some name ∧ name ∉ seen
    · obtain ⟨name, hname, hfresh⟩ := hfresh
      rw [nameDefect?_cons_of_fresh hname hfresh, ih,
        List.filterMap_cons_some hname, List.forall_mem_cons]
      constructor
      · rintro ⟨hnamed, hunseen⟩
        refine ⟨⟨name, hname, ?_, hnamed⟩, hfresh, ?_⟩
        · exact fun hmem => hunseen name hmem List.mem_cons_self
        · exact fun name' hmem hseen =>
            hunseen name' hmem (List.mem_cons_of_mem _ hseen)
      · rintro ⟨⟨name', hname', hnew, hnamed⟩, -, hunseen⟩
        obtain rfl := Option.some.inj (hname.symm.trans hname')
        refine ⟨hnamed, fun name' hmem hseen => ?_⟩
        rcases List.mem_cons.mp hseen with rfl | hseen
        · exact hnew hmem
        · exact hunseen name' hmem hseen
    · have hend : ∀ name, rule.name = some name → name ∈ seen := by
        simpa using hfresh
      refine iff_of_false (nameDefect?_cons_ne_none hend rules) ?_
      rintro ⟨⟨name, hname, -⟩, hunseen⟩
      rw [List.filterMap_cons_some hname, List.forall_mem_cons] at hunseen
      exact hunseen.1 (hend name hname)

/-- The first element of a list at which something is the case, given all that
is in front of it. -/
theorem exists_split_cons {α : Type} {x : α} {xs : List α}
    {P : List α → α → Prop} :
    (∃ before a after, x :: xs = before ++ a :: after ∧ P before a) ↔
      P [] x ∨ ∃ before a after, xs = before ++ a :: after ∧ P (x :: before) a := by
  constructor
  · rintro ⟨before, a, after, hsplit, h⟩
    cases before with
    | nil =>
      cases hsplit
      exact .inl h
    | cons y before =>
      cases hsplit
      exact .inr ⟨before, a, after, rfl, h⟩
  · rintro (h | ⟨before, a, after, rfl, h⟩)
    · exact ⟨[], x, xs, rfl, h⟩
    · exact ⟨x :: before, a, after, rfl, h⟩

/-- The search for names ends at the first rule that has none, or one that is
taken. -/
theorem nameDefect?_eq_some_iff {seen : List String} {rules : List Rule}
    {e : GrammarError} :
    nameDefect? seen rules = some e ↔ ∃ before rule after,
      rules = before ++ rule :: after ∧ nameDefect? seen before = none ∧
      NameFault (before.filterMap Rule.name ++ seen) rule e := by
  induction rules generalizing seen with
  | nil => simp [nameDefect?]
  | cons rule rules ih =>
    rw [exists_split_cons]
    by_cases hfresh : ∃ name, rule.name = some name ∧ name ∉ seen
    · obtain ⟨name, hname, hfresh⟩ := hfresh
      have hnone : ¬ NameFault seen rule e := by
        simp [nameFault_iff, hname, hfresh]
      simp only [nameDefect?_cons_of_fresh hname hfresh, ih,
        nameFault_append_cons, List.filterMap_cons_some hname,
        List.filterMap_nil, List.nil_append, hnone, and_false, false_or]
    · have hend : ∀ name, rule.name = some name → name ∈ seen := by
        simpa using hfresh
      simp only [nameDefect?_cons_eq_some_iff hend,
        nameDefect?_cons_ne_none hend, nameDefect?_nil, List.filterMap_nil,
        List.nil_append, true_and, false_and, and_false, exists_false, or_false]

/-! ## Nodes -/

theorem nodeDefect?_eq_some_iff {names : List String} {owner : String}
    {node : Rule} {e : GrammarError} :
    nodeDefect? names owner node = some e ↔ NodeFault names owner node e := by
  constructor
  · intro h
    rw [nodeDefect?] at h
    split at h
    · next hempty =>
      simp only [Bool.and_eq_true, List.isEmpty_iff] at hempty
      cases h
      exact .emptyComposite hempty.1 hempty.2
    split at h
    · next target htarget =>
      split at h
      · cases h
      · next hunknown =>
        cases h
        exact .unknownRule htarget hunknown
    · cases h
  · rintro (⟨composite, childless⟩ | ⟨refers, unknown⟩)
    · simp [nodeDefect?, composite, childless]
    · simp [nodeDefect?, refers, unknown, Rule.isComposite_of_target? refers]

/-- The search through a rule ends at the first node of its walk that is not
intact. -/
theorem ruleDefect?_eq_some_iff {names : List String} {rule : Rule}
    {owner : String} (howner : rule.name = some owner) {e : GrammarError} :
    ruleDefect? names rule = some e ↔ ∃ passed node rest,
      rule.walk = passed ++ node :: rest ∧ NodeFault names owner node e ∧
      ∀ node ∈ passed, node.Intact names := by
  simp only [ruleDefect?, howner, Option.getD_some, List.findSome?_eq_some_iff,
    nodeDefect?_eq_some_iff, nodeDefect?_eq_none_iff]

/-! ## Whole tables -/

theorem defect?_eq_none_iff {rules : List Rule} :
    defect? rules = none ↔ DistinctlyNamed rules ∧
      ∀ rule ∈ rules, rule.WellFormed (rules.filterMap Rule.name) := by
  have hnamed : nameDefect? [] rules = none ↔ DistinctlyNamed rules := by
    simp [nameDefect?_eq_none_iff]
  rw [← hnamed, defect?]
  cases nameDefect? [] rules with
  | some e => simp
  | none => simp [List.findSome?_eq_none_iff, ruleDefect?_eq_none_iff]

theorem firstDefect_of_defect? {rules : List Rule} {e : GrammarError}
    (h : defect? rules = some e) (root : String) : FirstDefect rules root e := by
  rw [defect?] at h
  split at h
  · next e' hname =>
    cases h
    obtain ⟨before, rule, after, hsplit, hearlier, hfault⟩ :=
      nameDefect?_eq_some_iff.mp hname
    rw [List.append_nil] at hfault
    exact .name hsplit (nameDefect?_eq_none_iff.mp hearlier).1 hfault
  · next hname =>
    have hnamed := (nameDefect?_eq_none_iff.mp hname).1
    obtain ⟨before, rule, after, hsplit, hdefect, hearlier⟩ :=
      List.findSome?_eq_some_iff.mp h
    have hmem : rule ∈ rules := by simp [hsplit]
    obtain ⟨owner, howner⟩ :=
      Option.ne_none_iff_exists'.mp (hnamed.named rule hmem)
    obtain ⟨passed, node, rest, hwalk, hfault, hintact⟩ :=
      (ruleDefect?_eq_some_iff howner).mp hdefect
    exact .node hnamed hsplit
      (fun rule hmem => ruleDefect?_eq_none_iff.mp (hearlier rule hmem))
      howner hwalk hintact hfault

theorem defect?_of_nameFault {before after : List Rule} {rule : Rule}
    {e : GrammarError} (hearlier : DistinctlyNamed before)
    (hfault : NameFault (before.filterMap Rule.name) rule e) :
    defect? (before ++ rule :: after) = some e := by
  have hname : nameDefect? [] (before ++ rule :: after) = some e := by
    refine nameDefect?_eq_some_iff.mpr ⟨before, rule, after, rfl, ?_, ?_⟩
    · exact nameDefect?_eq_none_iff.mpr ⟨hearlier, nofun⟩
    · rwa [List.append_nil]
  rw [defect?, hname]

theorem defect?_of_nodes {rules : List Rule} {e : GrammarError}
    (hnamed : DistinctlyNamed rules)
    (h : rules.findSome? (ruleDefect? (rules.filterMap Rule.name)) = some e) :
    defect? rules = some e := by
  have hname : nameDefect? [] rules = none :=
    nameDefect?_eq_none_iff.mpr ⟨hnamed, nofun⟩
  rw [defect?, hname]
  exact h

/-- **Assembly reports the first defect**, and nothing else. -/
theorem assemble_eq_error_iff {rules : List Rule} {root : String}
    {e : GrammarError} :
    assemble rules root = .error e ↔ FirstDefect rules root e := by
  constructor
  · intro h
    rw [assemble] at h
    split at h
    · next e' hdefect =>
      cases h
      exact firstDefect_of_defect? hdefect root
    next hdefect =>
    obtain ⟨hnamed, hwellFormed⟩ := defect?_eq_none_iff.mp hdefect
    split at h
    · cases h
    · next hlookup =>
      cases h
      exact .root hnamed hwellFormed
        fun hmem => lookup_ne_none_iff.mpr hmem hlookup
  · rintro (⟨split, earlier, fault⟩ |
      ⟨distinctlyNamed, split, earlier, owned, walk, intact, fault⟩ |
      ⟨distinctlyNamed, wellFormed, missing⟩)
    · rw [split, assemble, defect?_of_nameFault earlier fault]
    · have hdefect := (ruleDefect?_eq_some_iff owned).mpr
        ⟨_, _, _, walk, fault, intact⟩
      rw [assemble, defect?_of_nodes distinctlyNamed
        (List.findSome?_eq_some_iff.mpr ⟨_, _, _, split, hdefect,
          fun rule hmem => ruleDefect?_eq_none_iff.mpr (earlier rule hmem)⟩)]
    · have hlookup : lookup rules root = none :=
        Classical.not_not.mp (mt lookup_ne_none_iff.mp missing)
      rw [assemble, defect?_eq_none_iff.mpr ⟨distinctlyNamed, wellFormed⟩]
      simp only [hlookup]

theorem toList_lookup {rules : List Rule} (h : DistinctlyNamed rules)
    (name : String) :
    (lookup rules name).toList = rules.filter (·.name = some name) := by
  induction rules with
  | nil => rfl
  | cons rule rules ih =>
    obtain ⟨name', hname', hfresh, hrules⟩ := distinctlyNamed_cons.mp h
    by_cases heq : rule.name = some name
    · have hnone : rules.filter (·.name = some name) = [] := by
        rw [List.filter_eq_nil_iff]
        intro rule' hmem hname
        have hdistinct := (List.pairwise_cons.mp h.distinct).1 rule' hmem
        exact hdistinct (heq.trans (of_decide_eq_true hname).symm)
      simp [lookup, heq, hnone]
    · simpa [lookup, heq] using ih hrules

theorem registers_of_assemble {rules : List Rule} {root : String} {g : Grammar}
    (h : assemble rules root = .ok g) : g.Registers rules root := by
  rw [assemble] at h
  split at h
  · cases h
  next hdefect =>
  split at h
  · next r hlookup =>
    cases h
    exact ⟨rfl, toList_lookup (defect?_eq_none_iff.mp hdefect).1, hlookup⟩
  · cases h

theorem exists_assemble_eq_ok_iff {rules : List Rule} {root : String} :
    (∃ g, assemble rules root = .ok g) ↔ Sound rules root := by
  constructor
  · rintro ⟨g, h⟩
    have hregisters := registers_of_assemble h
    obtain ⟨hrules, hdefect⟩ := defect?_of_assemble h
    obtain ⟨hnamed, hwellFormed⟩ := defect?_eq_none_iff.mp hdefect
    refine ⟨hnamed, hwellFormed, lookup_ne_none_iff.mp ?_⟩
    rw [← hrules]
    exact Option.ne_none_iff_exists'.mpr ⟨g.root, hregisters.root_eq⟩
  · rintro ⟨hnamed, hwellFormed, hroot⟩
    obtain ⟨r, hlookup⟩ :=
      Option.ne_none_iff_exists'.mp (lookup_ne_none_iff.mpr hroot)
    refine ⟨⟨rules, r⟩, ?_⟩
    rw [assemble, defect?_eq_none_iff.mpr ⟨hnamed, hwellFormed⟩]
    simp only [hlookup]

/-- **Assembly accepts exactly the sound tables and reports the first defect of
every other.** The grammar has the rules as they were listed, and finds each of
them by its name. -/
theorem assemble_classified (rules : List Rule) (root : String) :
    ((∃ g, assemble rules root = .ok g) ↔ Sound rules root) ∧
    (∀ g, assemble rules root = .ok g → g.Registers rules root) ∧
    ∀ e, assemble rules root = .error e ↔ FirstDefect rules root e :=
  ⟨exists_assemble_eq_ok_iff, fun _ => registers_of_assemble,
    fun _ => assemble_eq_error_iff⟩

/-- The first table is sound. In the second one the root is missing, two nodes
are empty, and a reference leads nowhere, which stands before either of them in
the walk. -/
theorem assemble_classified_at_items :
    let item := Rule.identifier.named "item"
    let list := (Rule.sequence .blank
      [.referTo "item", .optional (.referBackTo "list")]).named "list"
    let broken := (Rule.sequence .blank
      [.referTo "item", .alternation .blank
        [.referBackTo "items", .exclusive .blank []]]).named "list"
    let empty := (Rule.sequence .blank []).named "empty"
    let g : Grammar := ⟨[list, item], list⟩
    assemble [list, item] "list" = .ok g ∧ Sound [list, item] "list" ∧
    g.Registers [list, item] "list" ∧
    assemble [broken, empty, item] "root" =
      .error (.unknownRule "items" "list") ∧
    FirstDefect [broken, empty, item] "root" (.unknownRule "items" "list") := by
  intro item list broken empty g
  have hok : assemble [list, item] "list" = .ok g := rfl
  have herror : assemble [broken, empty, item] "root" =
      .error (.unknownRule "items" "list") := rfl
  exact ⟨hok, (assemble_classified _ _).1.mp ⟨g, hok⟩,
    (assemble_classified _ _).2.1 g hok, herror,
    ((assemble_classified _ _).2.2 _).mp herror⟩

end Grammar

end SceneSelector
