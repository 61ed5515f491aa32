import SceneSelector.Proofs.Descent
import SceneSelector.Proofs.Spelling

/-!
# What the descent reads

Everything that the descent returns is spelled by the tokens that it has
passed, in full and with nothing left over, and every compound of it can be
seen. The levels that a part takes are a function of the part alone, and they
lie within the budget that it was read with (`query_sound`).
-/

namespace SceneSelector

/-! ## Levels -/

def PseudoClass.levels (p : PseudoClass) : Nat :=
  if p.args = [] then 3 else 4 * p.args.length + 4

namespace Compound

def attributeLevels (as : List Attribute) : Nat :=
  if as = [] then 0 else 3 * as.length + 1

def qualifierLevels (p : Option PseudoClass) (as : List Attribute) : Nat :=
  max ((p.map PseudoClass.levels).getD 0) (attributeLevels as)

/-- The levels of a target and the selectors after it. An untyped compound
begins with its selectors and spends one level less on them. -/
def selectorLevels (target : Target) (ss : List Selector) : Nat :=
  3 * ss.length + if target = .unspecified then 2 else 3

def levels (c : Compound) : Nat :=
  max (selectorLevels c.target c.selectors)
    (qualifierLevels c.pseudoClass c.attributes + 3)

end Compound

/-- The levels that a query takes; each compound of a chain lies five below
the one before it. -/
def Query.levels : Query → Nat
  | single c => c.levels + 3
  | link c _ rest => max (c.levels + 3) (rest.levels + 5)

namespace Descent

/-! ## Tokens -/

variable {ts ahead : List Token}

theorem first_eq_some_iff {α : Type} {f : Token → Option α} {a : α} :
    first f ts = some (a, ahead) ↔ ∃ t, ts = t :: ahead ∧ f t = some a := by
  cases ts with
  | nil => simp [first]
  | cons t ts => simp [first, Option.map_eq_some_iff, and_comm, and_assoc]

/-- Reading one token is finding the word of what it means. -/
theorem first_iff_spells {α : Type} {f : Token → Option α} (word : α → Word)
    (h : ∀ t a, f t = some a ↔ (word a).Admits t) {a : α} :
    first f ts = some (a, ahead) ↔ Spells [word a] ts ahead := by
  simp only [first_eq_some_iff, Spells.singleton_iff, h]

theorem first_symbol_iff {kind : Kind} {spelling : String} {u : Unit} :
    first (symbol? kind spelling) ts = some (u, ahead) ↔
      Spells [.exact kind spelling] ts ahead := by
  apply first_iff_spells fun _ => .exact kind spelling
  intro t u
  simp [symbol?, Pattern.accepts_exact, Word.Admits]

theorem first_symbol_of_spells {kind : Kind} {spelling : String}
    (h : Spells [.exact kind spelling] ts ahead) :
    first (symbol? kind spelling) ts = some ((), ahead) :=
  first_symbol_iff.mpr h

theorem first_identifier_iff {name : String} :
    first identifier? ts = some (name, ahead) ↔
      Spells [.exact .identifier name] ts ahead := by
  apply first_iff_spells (.exact .identifier)
  intro t name
  simp [identifier?, Word.Admits]

theorem first_name_iff {name : String} :
    first name? ts = some (name, ahead) ↔ Spells [.name name] ts ahead := by
  apply first_iff_spells .name
  intro t name
  simp only [name?, Word.Admits]
  split <;> simp_all

theorem first_value_iff {v : Value} :
    first value? ts = some (v, ahead) ↔ Spells [v.word] ts ahead := by
  apply first_iff_spells Value.word
  intro t v
  simp only [value?]
  split <;> cases v <;> simp_all [Value.word, Word.Admits]

theorem first_sigil_iff {make : String → Selector} :
    first sigil? ts = some (make, ahead) ↔
      make = .byId ∧ Spells [.exact .hash "#"] ts ahead ∨
      make = .byClass ∧ Spells [.exact .dot "."] ts ahead := by
  have htoken (t : Token) : sigil? t = some make ↔
      make = .byId ∧ (Word.exact .hash "#").Admits t ∨
      make = .byClass ∧ (Word.exact .dot ".").Admits t := by
    simp only [sigil?, Pattern.accepts_exact, Word.Admits]
    split
    · next h => simp [h, eq_comm]
    · next h =>
      split
      · next h' => simp [h', eq_comm]
      · next h' => simp [h, h']
  simp only [first_eq_some_iff, htoken, Spells.singleton_iff]
  grind

theorem first_target_iff {target : Target} :
    first target? ts = some (target, ahead) ↔
      target ≠ .unspecified ∧ Spells target.words ts ahead := by
  have htoken (t : Token) : target? t = some target ↔
      target ≠ .unspecified ∧ Spells target.words (t :: ahead) ahead := by
    simp only [target?, Pattern.accepts_exact]
    cases target <;> simp [Target.words, Spells.singleton_iff, Word.Admits]
    all_goals split <;> simp_all
  simp only [first_eq_some_iff, htoken]
  constructor
  · intro h
    obtain ⟨t, rfl, h⟩ := h
    exact h
  · intro h
    obtain ⟨hne, h⟩ := h
    obtain ⟨w, hw⟩ : ∃ w, target.words = [w] := by
      cases target with
      | type name => exact ⟨_, rfl⟩
      | any => exact ⟨_, rfl⟩
      | unspecified => exact absurd rfl hne
    obtain ⟨t, rfl, -⟩ := Spells.singleton_iff.mp (hw ▸ h)
    exact ⟨t, rfl, hne, h⟩

theorem oneSelector_iff {s : Selector} :
    oneSelector ts = some (s, ahead) ↔ Spells s.words ts ahead := by
  simp only [oneSelector, Option.bind_eq_bind, Option.bind_eq_some_iff,
    Option.pure_def, Prod.exists, first_sigil_iff, first_name_iff]
  constructor
  · intro h
    rcases h with ⟨make, mid, ⟨rfl, hsigil⟩ | ⟨rfl, hsigil⟩, name, _, hname, hs⟩
    · cases hs
      exact hsigil.append hname
    · cases hs
      exact hsigil.append hname
  · intro h
    cases s with
    | byId name =>
      obtain ⟨mid, hsigil, hname⟩ := Spells.cons_iff.mp h
      exact ⟨_, mid, .inl ⟨rfl, hsigil⟩, name, ahead, hname, rfl⟩
    | byClass name =>
      obtain ⟨mid, hsigil, hname⟩ := Spells.cons_iff.mp h
      exact ⟨_, mid, .inr ⟨rfl, hsigil⟩, name, ahead, hname, rfl⟩

theorem oneAttribute_iff {a : Attribute} :
    oneAttribute ts = some (a, ahead) ↔ Spells a.words ts ahead := by
  simp only [oneAttribute, Option.bind_eq_bind, Option.bind_eq_some_iff,
    Option.pure_def, Prod.exists, first_symbol_iff, first_identifier_iff,
    first_value_iff]
  constructor
  · intro h
    obtain ⟨_, _, hopen, key, _, hkey, _, _, heq, v, _, hv, _, _, hclose, ha⟩ := h
    cases ha
    exact hopen.append (hkey.append (heq.append (hv.append hclose)))
  · intro h
    obtain ⟨_, hopen, h⟩ := Spells.cons_iff.mp h
    obtain ⟨_, hkey, h⟩ := Spells.cons_iff.mp h
    obtain ⟨_, heq, h⟩ := Spells.cons_iff.mp h
    obtain ⟨_, hv, hclose⟩ := Spells.cons_iff.mp h
    exact ⟨(), _, hopen, _, _, hkey, (), _, heq, _, _, hv, (), _, hclose, rfl⟩

/-! ## The parts of a compound -/

theorem selectors_sound : ∀ {b : Nat} {ts ahead : List Token}
    {ss : List Selector},
    selectors b ts = some (ss, ahead) →
    ss ≠ [] ∧ 3 * ss.length ≤ b ∧
      Spells (Compound.selectorWords ss) ts ahead
  | b + 3, ts, ahead, ss, h => by
    simp only [selectors, Option.bind_eq_bind, Option.bind_eq_some_iff,
      Option.pure_def, Prod.exists, oneSelector_iff] at h
    obtain ⟨s, mid, hs, hmore⟩ := h
    cases hd : selectors b mid with
    | none =>
      rw [hd] at hmore
      cases hmore
      refine ⟨by simp, by simp, ?_⟩
      simpa [Compound.selectorWords] using hs
    | some r =>
      obtain ⟨more, ahead'⟩ := r
      rw [hd] at hmore
      cases hmore
      obtain ⟨-, hlevels, hspells⟩ := selectors_sound hd
      refine ⟨by simp, ?_, hs.append hspells⟩
      simp only [Option.getD_some, List.length_cons]
      omega

theorem attributes_sound : ∀ {b : Nat} {ts ahead : List Token}
    {as : List Attribute},
    attributes b ts = some (as, ahead) →
    Compound.attributeLevels as ≤ b ∧
      Spells (Compound.attributeWords as) ts ahead
  | b + 4, ts, ahead, as, h => by
    simp only [attributes, Option.bind_eq_bind, Option.bind_eq_some_iff,
      Option.pure_def, Prod.exists, oneAttribute_iff] at h
    obtain ⟨a, mid, ha, hmore⟩ := h
    cases hd : attributes (b + 1) mid with
    | none =>
      rw [hd] at hmore
      cases hmore
      refine ⟨by simp [Compound.attributeLevels], ?_⟩
      simpa [Compound.attributeWords] using ha
    | some r =>
      obtain ⟨more, ahead'⟩ := r
      rw [hd] at hmore
      cases hmore
      obtain ⟨hlevels, hspells⟩ := attributes_sound hd
      refine ⟨?_, ha.append hspells⟩
      simp only [Compound.attributeLevels, Option.getD_some,
        List.cons_ne_nil, if_false, List.length_cons] at hlevels ⊢
      split at hlevels
      · next h => simp [h]
      · omega

theorem args_sound : ∀ {b : Nat} {ts ahead : List Token}
    {vs : List Value},
    args b ts = some (vs, ahead) →
    vs ≠ [] ∧ 4 * vs.length ≤ b ∧ Spells (argsWords vs) ts ahead
  | b + 4, ts, ahead, vs, h => by
    simp only [args, Option.bind_eq_bind, Option.bind_eq_some_iff,
      Option.pure_def, Prod.exists, first_value_iff] at h
    obtain ⟨v, mid, hv, hmore⟩ := h
    cases hd : (first (symbol? .comma ",") mid).bind fun x => args b x.2 with
    | none =>
      rw [hd] at hmore
      cases hmore
      exact ⟨by simp, by simp, hv⟩
    | some r =>
      obtain ⟨more, ahead'⟩ := r
      rw [hd] at hmore
      cases hmore
      simp only [Option.bind_eq_some_iff, Prod.exists, first_symbol_iff] at hd
      obtain ⟨_, mid', hcomma, hd⟩ := hd
      obtain ⟨hne, hlevels, hspells⟩ := args_sound hd
      refine ⟨by simp, ?_, ?_⟩
      · simp only [Option.getD_some, List.length_cons]
        omega
      · obtain ⟨w, ws, rfl⟩ := List.exists_cons_of_ne_nil hne
        exact hv.append (hcomma.append hspells)

theorem argumentList_sound {b : Nat} {ts : List Token} {vs : List Value}
    (h : argumentList b ts = some (vs, ahead)) :
    vs ≠ [] ∧ 4 * vs.length ≤ b ∧ Spells (argumentWords vs) ts ahead := by
  simp only [argumentList, Option.bind_eq_bind, Option.bind_eq_some_iff,
    Option.pure_def, Prod.exists, first_symbol_iff] at h
  obtain ⟨_, _, hopen, vs, _, hargs, _, _, hclose, hvs⟩ := h
  cases hvs
  obtain ⟨hne, hlevels, hspells⟩ := args_sound hargs
  refine ⟨hne, hlevels, ?_⟩
  rw [argumentWords, if_neg hne]
  exact hopen.append (hspells.append hclose)

theorem pseudoClass_sound : ∀ {b : Nat} {ts ahead : List Token}
    {p : PseudoClass},
    pseudoClass b ts = some (p, ahead) →
    p.levels ≤ b ∧ Spells p.words ts ahead
  | b + 3, ts, ahead, p, h => by
    simp only [pseudoClass, Option.bind_eq_bind, Option.bind_eq_some_iff,
      Option.pure_def, Prod.exists, first_symbol_iff,
      first_identifier_iff] at h
    obtain ⟨_, _, hcolon, name, mid, hname, hargs⟩ := h
    cases hd : argumentList (b - 1) mid with
    | none =>
      rw [hd] at hargs
      cases hargs
      exact ⟨by simp [PseudoClass.levels], hcolon.append hname⟩
    | some r =>
      obtain ⟨vs, ahead'⟩ := r
      rw [hd] at hargs
      cases hargs
      obtain ⟨hne, hlevels, hspells⟩ := argumentList_sound hd
      have hlength := List.length_pos_iff.mpr hne
      refine ⟨?_, hcolon.append (hname.append hspells)⟩
      simp only [PseudoClass.levels, Option.getD_some, if_neg hne]
      omega

/-! ## Compounds and chains -/

/-- A reading that is not required leaves nothing read, or what it reads. -/
theorem of_getD_eq {α : Type} {P : α → Prop} {o : Option α} {d r : α}
    (h : o.getD d = r) (hd : P d) (ho : ∀ a, o = some a → P a) : P r := by
  subst h
  cases o with
  | none => exact hd
  | some a => exact ho a rfl

theorem selectors_getD_sound {b : Nat} {ss : List Selector}
    (h : (selectors b ts).getD ([], ts) = (ss, ahead)) :
    3 * ss.length ≤ b ∧ Spells (Compound.selectorWords ss) ts ahead := by
  apply of_getD_eq h
    (P := fun r => 3 * r.1.length ≤ b ∧
      Spells (Compound.selectorWords r.1) ts r.2)
  · exact ⟨Nat.zero_le _, .nil⟩
  · intro r hr
    exact (selectors_sound hr).2

theorem attributes_getD_sound {b : Nat} {as : List Attribute}
    (h : (attributes b ts).getD ([], ts) = (as, ahead)) :
    Compound.attributeLevels as ≤ b ∧
      Spells (Compound.attributeWords as) ts ahead := by
  apply of_getD_eq h
    (P := fun r => Compound.attributeLevels r.1 ≤ b ∧
      Spells (Compound.attributeWords r.1) ts r.2)
  · exact ⟨Nat.zero_le _, .nil⟩
  · intro r hr
    exact attributes_sound hr

theorem pseudoClass_getD_sound {b : Nat} {p : Option PseudoClass}
    (h : ((pseudoClass b ts).map fun (p, ts) => (some p, ts)).getD (none, ts) =
      (p, ahead)) :
    (p.map PseudoClass.levels).getD 0 ≤ b ∧
      Spells ((p.map PseudoClass.words).getD []) ts ahead := by
  apply of_getD_eq h
    (P := fun r => (r.1.map PseudoClass.levels).getD 0 ≤ b ∧
      Spells ((r.1.map PseudoClass.words).getD []) ts r.2)
  · exact ⟨Nat.zero_le _, .nil⟩
  · intro r hr
    obtain ⟨⟨p, ahead⟩, hp, rfl⟩ := Option.map_eq_some_iff.mp hr
    exact pseudoClass_sound hp

theorem qualified_sound {b : Nat} {target : Target} {ss : List Selector}
    {c : Compound} (h : qualified b target ss ts = (c, ahead)) :
    ∃ p as, c = ⟨target, ss, p, as⟩ ∧ Compound.qualifierLevels p as ≤ b ∧
      Spells (Compound.qualifierWords p as) ts ahead := by
  simp only [qualified] at h
  generalize hp : ((pseudoClass b ts).map fun (p, ts) => (some p, ts)).getD
    (none, ts) = rp at h
  generalize ha : (attributes b rp.2).getD ([], rp.2) = ra at h
  cases h
  obtain ⟨hplevels, hpspells⟩ := pseudoClass_getD_sound hp
  obtain ⟨halevels, haspells⟩ := attributes_getD_sound ha
  exact ⟨_, _, rfl, Nat.max_le.mpr ⟨hplevels, halevels⟩,
    hpspells.append haspells⟩

theorem typed_sound {b : Nat} {c : Compound}
    (h : typed b ts = some (c, ahead)) :
    c.Anchored ∧ c.levels ≤ b ∧ Spells c.words ts ahead := by
  match b, h with
  | b + 3, h =>
    simp only [typed, Option.bind_eq_bind, Option.bind_eq_some_iff,
      Option.pure_def, Prod.exists, first_target_iff] at h
    obtain ⟨target, mid, ⟨hne, htarget⟩, h⟩ := h
    generalize hs : (selectors b mid).getD ([], mid) = rs at h
    obtain ⟨hslevels, hsspells⟩ := selectors_getD_sound hs
    obtain ⟨p, as, rfl, hqlevels, hqspells⟩ :=
      qualified_sound (Option.some.inj h)
    refine ⟨fun hu => absurd hu hne, ?_,
      htarget.append (hsspells.append hqspells)⟩
    simp only [Compound.levels, Compound.selectorLevels, if_neg hne]
    omega

theorem untyped_sound {b : Nat} {c : Compound}
    (h : untyped b ts = some (c, ahead)) :
    c.Anchored ∧ c.levels ≤ b ∧ Spells c.words ts ahead := by
  match b, h with
  | b + 3, h =>
    simp only [untyped, Option.bind_eq_bind, Option.bind_eq_some_iff,
      Option.pure_def, Prod.exists] at h
    obtain ⟨ss, mid, hs, h⟩ := h
    obtain ⟨hne, hslevels, hsspells⟩ := selectors_sound hs
    obtain ⟨p, as, rfl, hqlevels, hqspells⟩ :=
      qualified_sound (Option.some.inj h)
    refine ⟨fun _ => hne, ?_, hsspells.append hqspells⟩
    simp only [Compound.levels, Compound.selectorLevels, if_true]
    omega

theorem compound_sound {b : Nat} {c : Compound}
    (h : compound b ts = some (c, ahead)) :
    c.Anchored ∧ c.levels ≤ b ∧ Spells c.words ts ahead := by
  rw [compound, Option.or_eq_some_iff] at h
  rcases h with h | ⟨-, h⟩
  · exact typed_sound h
  · exact untyped_sound h

theorem link_eq_some {next : List Token → Option (Query × List Token)}
    {k : Combinator} {q : Query} (h : link next ts = some ((k, q), ahead)) :
    ∃ mid, Spells k.words ts mid ∧ next mid = some (q, ahead) := by
  simp only [link] at h
  cases hg : first (symbol? .greater ">") ts with
  | some r =>
    obtain ⟨u, mid⟩ := r
    simp only [hg, Option.map_eq_some_iff, Prod.exists] at h
    obtain ⟨q', ahead', hq, h⟩ := h
    cases h
    exact ⟨mid, first_symbol_iff.mp hg, hq⟩
  | none =>
    simp only [hg, Option.map_eq_some_iff, Prod.exists] at h
    obtain ⟨q', ahead', hq, h⟩ := h
    cases h
    exact ⟨ts, .nil, hq⟩

/-- **What the descent reads is spelled by the tokens it passes**, and its
levels lie within the budget. -/
theorem query_sound : ∀ {b : Nat} {ts ahead : List Token} {q : Query},
    query b ts = some (q, ahead) →
    q.Anchored ∧ q.levels ≤ b ∧ Spells q.words ts ahead
  | b + 5, ts, ahead, q, h => by
    simp only [query, Option.bind_eq_bind, Option.bind_eq_some_iff,
      Prod.exists] at h
    obtain ⟨c, mid, hc, h⟩ := h
    obtain ⟨hanchored, hlevels, hspells⟩ := compound_sound hc
    split at h
    · next k rest ahead' hlink =>
      cases h
      obtain ⟨mid', hk, hrest⟩ := link_eq_some hlink
      obtain ⟨hanchored', hlevels', hspells'⟩ := query_sound hrest
      refine ⟨⟨hanchored, hanchored'⟩, ?_, hspells.append (hk.append hspells')⟩
      simp only [Query.levels]
      omega
    · cases h
      refine ⟨hanchored, ?_, hspells⟩
      simp only [Query.levels]
      omega

end Descent

end SceneSelector
