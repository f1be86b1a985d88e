import Memberwise.Proofs.Engine.History
import Memberwise.Proofs.Engine.Members
import Memberwise.Proofs.Source.Fresh

/-!
# Classes as modules

The module of a class has one function for each of its methods, and a module inside for those of
its builder. No method is left out, because a synthesis with members of a builder has a plan for
them; and no two are merged, because an identifier is taken once.
-/

namespace Memberwise

namespace ClassSynthesis

def own (s : ClassSynthesis) : List Method := s.methods.filter (·.owner = s.cls)

def others (s : ClassSynthesis) : List Method := s.methods.filter (·.owner ≠ s.cls)

section

variable (strictness : Strictness) (c : ClassDecl)

theorem owner_of_mem_families {x : Method}
    (h : x ∈ freshFamily strictness c .equality ++ freshFamily strictness c .printing) :
    x.owner = c.name := by
  rcases List.mem_append.mp h with h | h
  · obtain ⟨hfamily, hx⟩ := exists_of_mem_freshFamily h
    exact freshMember_owner hx (by simp [hfamily])
  · obtain ⟨hfamily, hx⟩ := exists_of_mem_freshFamily h
    exact freshMember_owner hx (by simp [hfamily])

theorem own_fresh : (fresh strictness c).own =
    (freshFamily strictness c .equality ++ freshFamily strictness c .printing) ++
      (freshFamily strictness c .building).filter (·.owner = c.name) := by
  change List.filter _ (_ ++ _) = _
  rw [List.filter_append]
  congr 1
  exact List.filter_eq_self.mpr fun x hx =>
    decide_eq_true (owner_of_mem_families strictness c hx)

theorem others_fresh : (fresh strictness c).others =
    (freshFamily strictness c .building).filter (·.owner ≠ c.name) := by
  change List.filter _ (_ ++ _) = _
  rw [List.filter_append, List.filter_eq_nil_iff.mpr, List.nil_append]
  · rfl
  · intro x hx
    have howner : x.owner = (fresh strictness c).cls := owner_of_mem_families strictness c hx
    simp [howner]

/-- The builder may have the name of the class, so that its methods are the class's own. -/
theorem building_owner : (∀ x ∈ freshFamily strictness c .building, x.owner = c.name) ∨
    ∀ x ∈ freshFamily strictness c .building, x.owner ≠ c.name := by
  by_cases h : ∃ plan, BuilderPlan.ofClass? c = some plan ∧ plan.builder = c.name
  · obtain ⟨plan, hplan, hname⟩ := h
    refine .inl fun x hx => ?_
    obtain ⟨hfamily, hx⟩ := exists_of_mem_freshFamily hx
    obtain ⟨plan', hplan', howner⟩ := exists_plan_of_freshMember hx hfamily
    obtain rfl := Option.some.inj (hplan.symm.trans hplan')
    exact howner.trans hname
  · refine .inr fun x hx howner => h ?_
    obtain ⟨hfamily, hx⟩ := exists_of_mem_freshFamily hx
    obtain ⟨plan, hplan, howner'⟩ := exists_plan_of_freshMember hx hfamily
    exact ⟨plan, hplan, howner'.symm.trans howner⟩

theorem own_append_others_fresh :
    (fresh strictness c).own ++ (fresh strictness c).others = (fresh strictness c).methods := by
  rw [own_fresh, others_fresh, List.append_assoc]
  change _ = _ ++ freshFamily strictness c .building
  congr 1
  rcases building_owner strictness c with h | h
  · rw [List.filter_eq_self.mpr fun x hx => decide_eq_true (h x hx),
      List.filter_eq_nil_iff.mpr fun x hx => by simp [h x hx], List.append_nil]
  · rw [List.filter_eq_nil_iff.mpr fun x hx => by simp [h x hx],
      List.filter_eq_self.mpr fun x hx => decide_eq_true (h x hx), List.nil_append]

theorem others_fresh_of_builder (h : (fresh strictness c).builder = none) :
    (fresh strictness c).others = [] := by
  have hready : (checkFamily c strictness .building).isReady = false := by
    rw [← Bool.not_eq_true]
    intro hready
    obtain ⟨plan, hplan⟩ := exists_plan_of_ready hready
    simp only [fresh, hready, if_true, hplan] at h
    cases h
  rw [others_fresh, freshFamily, if_neg (by simp [hready])]
  rfl

end

end ClassSynthesis

namespace Source

variable {L : Language} {rt : List Token}

/-- The item is the function of the method, under the identifier of its name. -/
structure Renders (L : Language) (rt : List Token) (m : Method) (item : Item) : Prop where
  name : item.name = m.body.signature.name
  identifier : L.snakeIdentifier m.body.signature.name = .ok item.identifier
  tokens : ∃ params body,
    (m.body.signature.params.mapM fun param => L.snakeIdentifier param.name) = .ok params ∧
    L.stmtsSource rt m.body.signature.name m.body.stmts = .ok body ∧
    item.tokens = methodTokens rt m item.identifier params body

theorem itemOf_eq_ok_iff {m : Method} {item : Item} :
    L.itemOf rt m = .ok item ↔ Renders L rt m item := by
  rw [Language.itemOf, Language.methodSource_eq]
  constructor
  · intro h
    obtain ⟨tokens, htokens, h⟩ := bind_eq_ok_iff.mp h
    obtain ⟨w, hw, h⟩ := bind_eq_ok_iff.mp h
    obtain ⟨w', hw', htokens⟩ := bind_eq_ok_iff.mp htokens
    obtain ⟨params, hparams, htokens⟩ := bind_eq_ok_iff.mp htokens
    obtain ⟨body, hbody, htokens⟩ := bind_eq_ok_iff.mp htokens
    obtain rfl := Except.ok.inj (hw.symm.trans hw')
    cases htokens
    cases h
    exact ⟨rfl, hw, params, body, hparams, hbody, rfl⟩
  · obtain ⟨name, w, tokens⟩ := item
    rintro ⟨hname, hw, params, body, hparams, hbody, htokens⟩
    dsimp only at hname hw htokens
    subst hname htokens
    simp only [hw, hparams, hbody]
    rfl

theorem covers_ne_nameClash (first second w : String) : Covers (· ≠ .nameClash first second w) :=
  ⟨fun _ => Unrenderable.noConfusion, fun _ => Unrenderable.noConfusion⟩

theorem Taken.add_eq_ok_iff {taken taken' : Taken} {item : Item} :
    taken.add item = .ok taken' ↔ taken.get? item.identifier = none ∧
      taken' = taken.insert item.identifier item.name := by
  unfold Taken.add
  cases taken.get? item.identifier <;> simp [eq_comm]

theorem Taken.add_eq_error_iff {taken : Taken} {item : Item} {e : Unrenderable} :
    taken.add item = .error e ↔ ∃ first, taken.get? item.identifier = some first ∧
      e = .nameClash first item.name item.identifier := by
  unfold Taken.add
  cases taken.get? item.identifier <;> simp [eq_comm]

def Fits (taken : Taken) (items : List Item) : Prop :=
  (items.map (·.identifier)).Nodup ∧ ∀ item ∈ items, taken.get? item.identifier = none

theorem fits_cons_iff {taken : Taken} {item : Item} {items : List Item} :
    Fits taken (item :: items) ↔ ∃ taken', taken.add item = .ok taken' ∧ Fits taken' items := by
  have hnotMem : item.identifier ∉ items.map (·.identifier) ↔
      ∀ other ∈ items, item.identifier ≠ other.identifier := by
    simp [eq_comm]
  have hinsert (other : Item) :
      (taken.insert item.identifier item.name).get? other.identifier = none ↔
        item.identifier ≠ other.identifier ∧ taken.get? other.identifier = none := by
    rw [Table.get?_insert]
    by_cases h : item.identifier = other.identifier <;> simp [h]
  simp only [Taken.add_eq_ok_iff, and_assoc, exists_and_left, exists_eq_left, Fits,
    List.map_cons, List.nodup_cons, List.forall_mem_cons, hnotMem, hinsert]
  constructor
  · rintro ⟨hne, hnodup, hfree, hrest⟩
    exact ⟨hfree, hnodup, fun other hother => ⟨hne other hother, hrest other hother⟩⟩
  · rintro ⟨hfree, hnodup, hrest⟩
    exact ⟨fun other hother => (hrest other hother).1, hnodup, hfree,
      fun other hother => (hrest other hother).2⟩

theorem fits_empty_iff {items : List Item} :
    Fits ∅ items ↔ (items.map (·.identifier)).Nodup :=
  and_iff_left fun _ _ => rfl

theorem fits_freshName_iff {items : List Item} :
    Fits (Table.insert ∅ freshName freshName) items ↔
      (freshName :: items.map (·.identifier)).Nodup := by
  have hget (w : String) : (Table.insert (∅ : Taken) freshName freshName).get? w = none ↔
      w ≠ freshName := by
    rw [Table.get?_insert]
    by_cases h : freshName = w
    · simp [h]
    · rw [if_neg h]
      exact iff_of_true rfl (Ne.symm h)
  simp only [Fits, hget, List.nodup_cons, List.mem_map, not_exists, not_and]
  exact and_comm

/-- The items are those of the methods, in order, beside what is taken. -/
structure Fills (L : Language) (rt : List Token) (taken : Taken) (ms : List Method)
    (items : List Item) : Prop where
  renders : List.Forall₂ (Renders L rt) ms items
  fits : Fits taken items

theorem fills_nil_iff {taken : Taken} {items : List Item} :
    Fills L rt taken [] items ↔ items = [] := by
  constructor
  · rintro ⟨hrenders, -⟩
    exact List.forall₂_nil_left_iff.mp hrenders
  · rintro rfl
    exact ⟨.nil, .nil, fun _ h => nomatch h⟩

theorem fills_cons_iff {taken : Taken} {m : Method} {ms : List Method} {items : List Item} :
    Fills L rt taken (m :: ms) items ↔
      ∃ item, L.itemOf rt m = .ok item ∧ ∃ taken', taken.add item = .ok taken' ∧
        ∃ rest, Fills L rt taken' ms rest ∧ item :: rest = items := by
  constructor
  · rintro ⟨hrenders, hfits⟩
    obtain ⟨item, rest, hitem, hrest, rfl⟩ := List.forall₂_cons_left_iff.mp hrenders
    obtain ⟨taken', hadd, hfits⟩ := fits_cons_iff.mp hfits
    exact ⟨item, itemOf_eq_ok_iff.mpr hitem, taken', hadd, rest, ⟨hrest, hfits⟩, rfl⟩
  · rintro ⟨item, hitem, taken', hadd, rest, ⟨hrest, hfits⟩, rfl⟩
    exact ⟨.cons (itemOf_eq_ok_iff.mp hitem) hrest, fits_cons_iff.mpr ⟨taken', hadd, hfits⟩⟩

theorem itemsOf_eq_ok_iff {cls : ClassName} {own builder : Taken} {ms : List Method}
    {members others : List Item} :
    L.itemsOf rt cls own builder ms = .ok (members, others) ↔
      Fills L rt own (ms.filter (·.owner = cls)) members ∧
        Fills L rt builder (ms.filter (·.owner ≠ cls)) others := by
  induction ms generalizing own builder members others with
  | nil =>
    rw [List.filter_nil, List.filter_nil, fills_nil_iff, fills_nil_iff, Language.itemsOf]
    simp [eq_comm]
  | cons m ms ih =>
    rw [Language.itemsOf]
    by_cases hm : m.owner = cls
    · rw [List.filter_cons_of_pos (by simp [hm]), List.filter_cons_of_neg (by simp [hm]),
        fills_cons_iff]
      simp only [if_pos hm, bind_eq_ok_iff, Prod.exists, ih]
      constructor
      · rintro ⟨item, hitem, own', hadd, rest, others', ⟨hrest, hothers⟩, h⟩
        cases h
        exact ⟨⟨item, hitem, own', hadd, rest, hrest, rfl⟩, hothers⟩
      · rintro ⟨⟨item, hitem, own', hadd, rest, hrest, rfl⟩, hothers⟩
        exact ⟨item, hitem, own', hadd, rest, others, ⟨hrest, hothers⟩, rfl⟩
    · rw [List.filter_cons_of_neg (by simp [hm]), List.filter_cons_of_pos (by simp [hm]),
        fills_cons_iff]
      simp only [if_neg hm, bind_eq_ok_iff, Prod.exists, ih]
      constructor
      · rintro ⟨item, hitem, builder', hadd, members', rest, ⟨hmembers, hrest⟩, h⟩
        cases h
        exact ⟨hmembers, item, hitem, builder', hadd, rest, hrest, rfl⟩
      · rintro ⟨hmembers, item, hitem, builder', hadd, rest, hrest, rfl⟩
        exact ⟨item, hitem, builder', hadd, members, rest, ⟨hmembers, hrest⟩, rfl⟩

def takenFor (cls : ClassName) (own builder : Taken) (m : Method) : Taken :=
  if m.owner = cls then own else builder

/-- Some method comes under an identifier that an earlier one of its module has, or that was taken
at the outset. -/
def Clashes (L : Language) (cls : ClassName) (own builder : Taken) (ms : List Method)
    (first second w : String) : Prop :=
  ∃ before x after, ms = before ++ x :: after ∧ x.body.signature.name = second ∧
    L.snakeIdentifier second = .ok w ∧
    ((∃ y ∈ before, (y.owner = cls ↔ x.owner = cls) ∧ y.body.signature.name = first ∧
        L.snakeIdentifier first = .ok w) ∨
      (takenFor cls own builder x).get? w = some first)

theorem Clashes.cons {cls : ClassName} {own builder own' builder' : Taken} {m : Method}
    {item : Item} {ms : List Method} {first second w : String} (hm : Renders L rt m item)
    (htaken : ∀ x : Method, takenFor cls own' builder' x =
      if m.owner = cls ↔ x.owner = cls then
        (takenFor cls own builder x).insert item.identifier item.name
      else takenFor cls own builder x)
    (h : Clashes L cls own' builder' ms first second w) :
    Clashes L cls own builder (m :: ms) first second w := by
  obtain ⟨before, x, after, rfl, hsecond, hw, hfirst⟩ := h
  refine ⟨m :: before, x, after, rfl, hsecond, hw, ?_⟩
  rcases hfirst with ⟨y, hy, hyx, hname, hyw⟩ | hfirst
  · exact .inl ⟨y, List.mem_cons_of_mem _ hy, hyx, hname, hyw⟩
  · rw [htaken] at hfirst
    split at hfirst
    · rename_i howner
      rw [Table.get?_insert] at hfirst
      split at hfirst
      · rename_i hw
        cases hfirst
        exact .inl ⟨m, List.mem_cons_self, howner, hm.name.symm, hm.name ▸ hw ▸ hm.identifier⟩
      · exact .inr hfirst
    · exact .inr hfirst

theorem itemsOf_cons_eq_error {cls : ClassName} {own builder : Taken} {m : Method}
    {ms : List Method} {e : Unrenderable} (h : L.itemsOf rt cls own builder (m :: ms) = .error e) :
    L.itemOf rt m = .error e ∨ ∃ item, L.itemOf rt m = .ok item ∧
      ((takenFor cls own builder m).add item = .error e ∨
        ∃ own' builder', L.itemsOf rt cls own' builder' ms = .error e ∧
          ∀ x : Method, takenFor cls own' builder' x =
            if m.owner = cls ↔ x.owner = cls then
              (takenFor cls own builder x).insert item.identifier item.name
            else takenFor cls own builder x) := by
  rw [Language.itemsOf] at h
  refine (bind_eq_error_iff.mp h).imp_right ?_
  rintro ⟨item, hitem, h⟩
  refine ⟨item, hitem, ?_⟩
  by_cases hm : m.owner = cls
  · rw [if_pos hm] at h
    rw [takenFor, if_pos hm]
    refine (bind_eq_error_iff.mp h).imp_right ?_
    rintro ⟨own', hadd, h⟩
    obtain ⟨-, rfl⟩ := Taken.add_eq_ok_iff.mp hadd
    rcases bind_eq_error_iff.mp h with h | ⟨_, -, h⟩
    · refine ⟨_, builder, h, fun x => ?_⟩
      by_cases hx : x.owner = cls <;> simp [takenFor, hm, hx]
    · cases h
  · rw [if_neg hm] at h
    rw [takenFor, if_neg hm]
    refine (bind_eq_error_iff.mp h).imp_right ?_
    rintro ⟨builder', hadd, h⟩
    obtain ⟨-, rfl⟩ := Taken.add_eq_ok_iff.mp hadd
    rcases bind_eq_error_iff.mp h with h | ⟨_, -, h⟩
    · refine ⟨own, _, h, fun x => ?_⟩
      by_cases hx : x.owner = cls <;> simp [takenFor, hm, hx]
    · cases h

theorem clashes_of_itemsOf {cls : ClassName} {own builder : Taken} {ms : List Method}
    {first second w : String}
    (h : L.itemsOf rt cls own builder ms = .error (.nameClash first second w)) :
    Clashes L cls own builder ms first second w := by
  induction ms generalizing own builder with
  | nil => cases h
  | cons m ms ih =>
    rcases itemsOf_cons_eq_error h with h | ⟨item, hitem, h | ⟨own', builder', h, htaken⟩⟩
    · exact absurd rfl (Language.itemOf_failsOnly rt (covers_ne_nameClash first second w) m
        (fun _ => Unrenderable.noConfusion) _ h)
    · have hrenders := itemOf_eq_ok_iff.mp hitem
      obtain ⟨first', hget, h⟩ := Taken.add_eq_error_iff.mp h
      cases h
      exact ⟨[], m, ms, rfl, hrenders.name.symm, hrenders.name ▸ hrenders.identifier, .inr hget⟩
    · exact (ih h).cons (itemOf_eq_ok_iff.mp hitem) htaken

/-- The module inside, with the function for a fresh builder and the functions of its methods. A
class without a builder has none. -/
inductive BuilderModule (rt : List Token) : Option BuilderPlan → List Item → List Token → Prop
  | none : BuilderModule rt none [] []
  | some {plan : BuilderPlan} {items : List Item} {value : List Token}
      (hfresh : builderSource rt plan = .ok (freshTokens rt plan value)) :
      BuilderModule rt (some plan) items
        (moduleTokens "builder" (freshTokens rt plan value ++ items.flatMap (·.tokens)))

/-- The functions of a class and those of its builder, each method's in its place, no two of one
place under one identifier. -/
structure Holds (L : Language) (rt : List Token) (s : ClassSynthesis) (w : String)
    (own others : List Item) (inner : List Token) : Prop where
  identifier : L.snakeIdentifier s.cls.short = .ok w
  renders_own : List.Forall₂ (Renders L rt) s.own own
  nodup_own : (own.map (·.identifier)).Nodup
  renders_others : List.Forall₂ (Renders L rt) s.others others
  nodup_others : ("new_builder" :: others.map (·.identifier)).Nodup
  inner : BuilderModule rt s.builder others inner

theorem itemsOf_methods_eq_ok_iff {s : ClassSynthesis} {own others : List Item} :
    L.itemsOf rt s.cls ∅ (Table.insert ∅ freshName freshName) s.methods = .ok (own, others) ↔
      (List.Forall₂ (Renders L rt) s.own own ∧ (own.map (·.identifier)).Nodup) ∧
        List.Forall₂ (Renders L rt) s.others others ∧
          ("new_builder" :: others.map (·.identifier)).Nodup := by
  rw [itemsOf_eq_ok_iff, ← fits_empty_iff, ← freshName, ← fits_freshName_iff]
  exact and_congr ⟨fun h => ⟨h.1, h.2⟩, fun h => ⟨h.1, h.2⟩⟩
    ⟨fun h => ⟨h.1, h.2⟩, fun h => ⟨h.1, h.2⟩⟩

theorem classModule_tokens_iff {s : ClassSynthesis} (hs : s.builder = none → s.others = [])
    {ts : List Token} : (L.classModule rt s).map (·.tokens) = .ok ts ↔
      ∃ w own others inner, Holds L rt s w own others inner ∧
        ts = moduleTokens w (own.flatMap (·.tokens) ++ inner) := by
  constructor
  · intro htokens
    obtain ⟨M, h, rfl⟩ := map_eq_ok_iff.mp htokens
    obtain ⟨w, hw, h⟩ := bind_eq_ok_iff.mp h
    obtain ⟨⟨own, others⟩, hok, h⟩ := bind_eq_ok_iff.mp h
    obtain ⟨⟨hown, hnodup⟩, hothers, hnodup'⟩ := itemsOf_methods_eq_ok_iff.mp hok
    cases hbuilder : s.builder with
    | none =>
      rw [hs hbuilder] at hothers
      obtain rfl := List.forall₂_nil_left_iff.mp hothers
      simp only [hbuilder] at h
      cases h
      exact ⟨w, own, [], [], ⟨hw, hown, hnodup, hs hbuilder ▸ .nil, hnodup',
        hbuilder ▸ .none⟩, rfl⟩
    | some plan =>
      simp only [hbuilder] at h
      obtain ⟨fresh, hfresh, h⟩ := bind_eq_ok_iff.mp h
      obtain ⟨value, rfl⟩ := exists_freshTokens hfresh
      cases h
      exact ⟨w, own, others, _, ⟨hw, hown, hnodup, hothers, hnodup', hbuilder ▸ .some hfresh⟩,
        rfl⟩
  · rintro ⟨w, own, others, inner, ⟨hw, hown, hnodup, hothers, hnodup', hinner⟩, rfl⟩
    have hitems := itemsOf_methods_eq_ok_iff.mpr ⟨⟨hown, hnodup⟩, hothers, hnodup'⟩
    refine map_eq_ok_iff.mpr ?_
    cases hplan : s.builder with
    | none =>
      rw [hplan] at hinner
      cases hinner
      refine ⟨⟨w, own, none⟩, ?_, rfl⟩
      simp only [Language.classModule, hw, hitems, hplan]
      rfl
    | some plan =>
      rw [hplan] at hinner
      cases hinner with
      | some hfresh =>
        refine ⟨⟨w, own, some (_, others)⟩, ?_, rfl⟩
        simp only [Language.classModule, hw, hitems, hplan, hfresh]
        rfl

theorem clashes_of_classModule {s : ClassSynthesis} {first second w : String}
    (h : L.classModule rt s = .error (.nameClash first second w)) :
    Clashes L s.cls ∅ (Table.insert ∅ freshName freshName) s.methods first second w := by
  rcases bind_eq_error_iff.mp h with h | ⟨_, -, h⟩
  · exact absurd rfl (Language.snakeIdentifier_failsOnly (covers_ne_nameClash first second w) _ _ h)
  rcases bind_eq_error_iff.mp h with h | ⟨⟨own, others⟩, -, h⟩
  · exact clashes_of_itemsOf h
  cases hbuilder : s.builder with
  | none =>
    simp only [hbuilder] at h
    cases h
  | some plan =>
    simp only [hbuilder] at h
    rcases bind_eq_error_iff.mp h with h | ⟨_, -, h⟩
    · obtain ⟨_, -, h⟩ := builderSource_eq_error_iff.mp h
      cases h
    · cases h

/-- What an engine makes of a class is rendered whole or refused, and a refusal for a clash names
two methods of one module that clash, or one that clashes with the function for a fresh builder. -/
theorem classModule_after (settings : Settings) (history : List Engine.Operation) (c : ClassDecl)
    (L : Language) (rt : List Token) :
    let s := ((Engine.after settings history).synthesizeClass c).1
    s.methods = s.own ++ s.others ∧
    (∀ ts, (L.classModule rt s).map (·.tokens) = .ok ts ↔
      ∃ w own others inner, Holds L rt s w own others inner ∧
        ts = moduleTokens w (own.flatMap (·.tokens) ++ inner)) ∧
    ∀ first second w, L.classModule rt s = .error (.nameClash first second w) →
      ∃ before x after, s.methods = before ++ x :: after ∧ x.body.signature.name = second ∧
        L.snakeIdentifier second = .ok w ∧
        ((∃ y ∈ before, (y.owner = s.cls ↔ x.owner = s.cls) ∧ y.body.signature.name = first ∧
            L.snakeIdentifier first = .ok w) ∨
          x.owner ≠ s.cls ∧ first = "new_builder" ∧ w = "new_builder") := by
  intro s
  have hs : s = .fresh _ c := (Engine.reachable_after settings history).synthesizeClass_fst c
  refine ⟨?_, ?_, ?_⟩
  · rw [hs, ClassSynthesis.own_append_others_fresh]
  · intro ts
    refine classModule_tokens_iff fun hbuilder => ?_
    rw [hs] at hbuilder ⊢
    exact ClassSynthesis.others_fresh_of_builder _ c hbuilder
  · intro first second w h
    obtain ⟨before, x, after, hsplit, hsecond, hw, hfirst⟩ := clashes_of_classModule h
    refine ⟨before, x, after, hsplit, hsecond, hw, hfirst.imp_right fun hfirst => ?_⟩
    unfold takenFor at hfirst
    split at hfirst
    · cases hfirst
    · rename_i hx
      rw [Table.get?_insert] at hfirst
      split at hfirst
      · rename_i hname
        cases hfirst
        exact ⟨hx, rfl, hname.symm⟩
      · cases hfirst

end Source

end Memberwise
