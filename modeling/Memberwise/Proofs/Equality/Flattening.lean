import Memberwise.Proofs.Equality.Laws
import Memberwise.Proofs.Machine.Dispatch
import Memberwise.Proofs.Machine.Polynomial

/-!
# Chains of classes that ask their superclass

Where each class of a chain asks the next one and the last asks none, equality is one comparison
over the properties of all of them, those of the last class first, and the hash is one polynomial.
A call to the superclass only makes calls nest deeper, so each side is below the other with a bound
that the length of the chain makes up for.
-/

namespace Memberwise

open Eval

theorem Eval.Ends.of_below {α : Type} {op op' : Nat → Eval α}
    (hbelow : ∀ depth, ∃ depth', Below (op depth) (op' depth')) {h h' : Heap} {r : Except Fault α}
    (hr : Ends op h r h') : Ends op' h r h' := by
  obtain ⟨depth, hr⟩ := hr
  obtain ⟨depth', hbelow⟩ := hbelow depth
  refine ⟨depth', ?_⟩
  rw [hbelow h, hr]
  rw [hr]
  cases r <;> simp

/-- Each class asks the next one, which is its superclass, and the last one asks none. -/
inductive AsksUp : List ClassDecl → Prop
  | last {c : ClassDecl} {options : EqualityOptions} :
    c.annotations.equality = some options → options.callSuper = false → AsksUp [c]
  | link {c next : ClassDecl} {cs : List ClassDecl} {options : EqualityOptions} :
    c.annotations.equality = some options → options.callSuper = true →
    c.superclass = some next.name → AsksUp (next :: cs) → AsksUp (c :: next :: cs)

/-- The properties that are compared along a chain, from its last class to its first. -/
def flatten (cs : List ClassDecl) : List Participant :=
  cs.reverse.flatMap (·.participants .equality)

theorem flatten_single (c : ClassDecl) : flatten [c] = c.participants .equality := by
  simp [flatten]

theorem flatten_cons (c : ClassDecl) (cs : List ClassDecl) :
    flatten (c :: cs) = flatten cs ++ c.participants .equality := by
  simp [flatten]

theorem IsProgram.comparesFrom_of_ready {ss : List ClassSynthesis} (hss : IsProgram ss)
    {c : ClassDecl} (hc : ReadyIn ss .equality c) {options : EqualityOptions}
    (hoptions : c.annotations.equality = some options) :
    (Machine.holding ss).ComparesFrom (some c.name) c options := by
  obtain ⟨options', hrequested, hcompares⟩ := hss.exists_comparesFrom_of_ready hc
  obtain rfl : options' = options := Option.some.inj (hrequested.symm.trans hoptions)
  exact hcompares

namespace Machine

/-- To ask for a member at or above a class, on instances of `cls`, is to carry a value through the
properties of that class: `first`, or what its superclass gives where that is asked. -/
structure Carries {α : Type} (m : Machine) (cls : ClassName)
    (ask : Call → Option ClassName → Eval α) (carry : Call → List Participant → α → Eval α)
    (first : α) : Prop where
  zero_below {start : Option ClassName} {c : ClassDecl} {options : EqualityOptions} :
    m.ComparesFrom start c options → ∀ x, Below (ask (m.invoke 0) start) x
  asking {start : Option ClassName} {c : ClassDecl} {options : EqualityOptions} {call : Call} :
    m.ComparesFrom start c options → m.isSubclass cls c.name = true → options.callSuper = true →
    ask (m.runBody call) start = ask call c.superclass >>= carry call (c.participants .equality)
  not_asking {start : Option ClassName} {c : ClassDecl} {options : EqualityOptions} {call : Call} :
    m.ComparesFrom start c options → m.isSubclass cls c.name = true → options.callSuper = false →
    ask (m.runBody call) start = carry call (c.participants .equality) first
  append (call : Call) (ps qs : List Participant) (x : α) :
    carry call (ps ++ qs) x = carry call ps x >>= carry call qs
  below {call call' : Call} (ps : List Participant) (x : α) :
    CallsBelow call call' → Below (carry call ps x) (carry call' ps x)

end Machine

namespace IsProgram

variable {ss : List ClassSynthesis} (hss : IsProgram ss) {α : Type} {cls : ClassName}
  {ask : Call → Option ClassName → Eval α} {carry : Call → List Participant → α → Eval α}
  {first : α} (hcarries : (Machine.holding ss).Carries cls ask carry first) {c : ClassDecl}
  {cs : List ClassDecl}

include hss hcarries

theorem ask_below_carry (hasks : AsksUp (c :: cs)) (hready : ∀ d ∈ c :: cs, ReadyIn ss .equality d)
    (hcls : (Machine.holding ss).isSubclass cls c.name = true) (depth : Nat) :
    Below (ask ((Machine.holding ss).invoke depth) (some c.name))
      (carry ((Machine.holding ss).invoke depth) (flatten (c :: cs)) first) := by
  induction cs generalizing c depth with
  | nil =>
    cases hasks with
    | last hoptions hcall =>
      have hc := hss.comparesFrom_of_ready (hready c List.mem_cons_self) hoptions
      cases depth with
      | zero => exact hcarries.zero_below hc _
      | succ depth =>
        rw [Machine.invoke, hcarries.not_asking hc hcls hcall, flatten_single]
        exact hcarries.below _ _ (Machine.invoke_below_succ _ depth)
  | cons next cs ih =>
    cases hasks with
    | link hoptions hcall hsuper hrest =>
      have hc := hss.comparesFrom_of_ready (hready c List.mem_cons_self) hoptions
      cases depth with
      | zero => exact hcarries.zero_below hc _
      | succ depth =>
        have hdeeper := Machine.invoke_below_succ (Machine.holding ss) depth
        have hnext := hc.compares.isSubclass_superclass hcls hsuper
        have hasked := ih hrest (fun d hd => hready d (List.mem_cons_of_mem c hd)) hnext depth
        rw [Machine.invoke, hcarries.asking hc hcls hcall, hsuper, flatten_cons, hcarries.append]
        refine (hasked.trans (hcarries.below _ _ hdeeper)).bind fun x => ?_
        exact hcarries.below _ x hdeeper

theorem carry_below_ask (hasks : AsksUp (c :: cs)) (hready : ∀ d ∈ c :: cs, ReadyIn ss .equality d)
    (hcls : (Machine.holding ss).isSubclass cls c.name = true) (depth : Nat) :
    Below (carry ((Machine.holding ss).invoke depth) (flatten (c :: cs)) first)
      (ask ((Machine.holding ss).invoke (depth + (cs.length + 1))) (some c.name)) := by
  induction cs generalizing c with
  | nil =>
    cases hasks with
    | last hoptions hcall =>
      have hc := hss.comparesFrom_of_ready (hready c List.mem_cons_self) hoptions
      rw [← Nat.add_assoc, Machine.invoke, hcarries.not_asking hc hcls hcall, flatten_single]
      exact .refl _
  | cons next cs ih =>
    cases hasks with
    | link hoptions hcall hsuper hrest =>
      have hc := hss.comparesFrom_of_ready (hready c List.mem_cons_self) hoptions
      have hnext := hc.compares.isSubclass_superclass hcls hsuper
      have hasked := ih hrest (fun d hd => hready d (List.mem_cons_of_mem c hd)) hnext
      rw [← Nat.add_assoc, Machine.invoke, hcarries.asking hc hcls hcall, hsuper, flatten_cons,
        hcarries.append]
      refine hasked.bind fun x => hcarries.below _ x ?_
      exact Machine.invoke_below _ (Nat.le_add_right _ _)

theorem ends_ask_iff (hasks : AsksUp (c :: cs)) (hready : ∀ d ∈ c :: cs, ReadyIn ss .equality d)
    (hcls : (Machine.holding ss).isSubclass cls c.name = true) (h : Heap) (r : Except Fault α)
    (h' : Heap) :
    Ends (fun depth => ask ((Machine.holding ss).invoke depth) (some c.name)) h r h' ↔
      Ends (fun depth => carry ((Machine.holding ss).invoke depth) (flatten (c :: cs)) first)
        h r h' := by
  constructor
  · exact Ends.of_below fun depth =>
      ⟨depth, hss.ask_below_carry hcarries hasks hready hcls depth⟩
  · exact Ends.of_below fun depth =>
      ⟨_, hss.carry_below_ask hcarries hasks hready hcls depth⟩

end IsProgram

namespace Machine

variable (m : Machine) (call : Call) (this that : ObjectRef)

def compareVia (ps : List Participant) : Bool → Eval Bool
  | true => m.agreeVia call this that ps
  | false => pure false

/-- The hashes of the properties in order, each taken before the next property is read. -/
def hashesVia : List Participant → Eval (List Int32)
  | [] => pure []
  | p :: ps => do
    let v ← Eval.read (·.guarded this p.property)
    let y ← m.hashVia call v
    return y :: (← hashesVia ps)

theorem agreeVia_append (ps qs : List Participant) :
    m.agreeVia call this that (ps ++ qs) =
      m.agreeVia call this that ps >>= m.compareVia call this that qs := by
  induction ps with
  | nil => rfl
  | cons p ps ih =>
    rw [List.cons_append, agreeVia, agreeVia]
    simp only [bind_assoc]
    refine bind_congr fun v => bind_congr fun w => bind_congr fun b => ?_
    cases b with
    | true => exact ih
    | false => rfl

theorem foldHashVia_append (ps qs : List Participant) (x : Int32) :
    m.foldHashVia call this (ps ++ qs) x =
      m.foldHashVia call this ps x >>= m.foldHashVia call this qs := by
  induction ps generalizing x with
  | nil => rfl
  | cons p ps ih =>
    rw [List.cons_append, foldHashVia, foldHashVia]
    simp only [bind_assoc]
    exact bind_congr fun v => bind_congr fun y => ih _

theorem foldHashVia_seed (ps : List Participant) :
    m.foldHashVia call this ps Synthesis.hashSeed = (do
      let ys ← m.hashesVia call this ps
      return Int32.ofInt (Hash.polynomial 17 (ys.map Int32.toInt))) := by
  have hfold (x : Int32) : m.foldHashVia call this ps x = (do
      let ys ← m.hashesVia call this ps
      return ys.foldl (fun hash y => hash * 31 + y) x) := by
    induction ps generalizing x with
    | nil => rfl
    | cons p ps ih =>
      rw [foldHashVia, hashesVia]
      simp only [bind_assoc, pure_bind, List.foldl_cons]
      exact bind_congr fun v => bind_congr fun y => ih _
  rw [hfold]
  exact bind_congr fun ys => congrArg pure (Hash.foldl_toInt 17 ys)

variable {call} {call' : Call}

theorem below_agreeVia (hcall : CallsBelow call call') (ps : List Participant) :
    Below (m.agreeVia call this that ps) (m.agreeVia call' this that ps) := by
  induction ps with
  | nil => exact .refl _
  | cons p ps ih =>
    refine .bind (.refl _) fun v => .bind (.refl _) fun w => ?_
    refine (m.below_equalsVia hcall v w).bind fun b => ?_
    cases b with
    | true => exact ih
    | false => exact .refl _

theorem below_foldHashVia (hcall : CallsBelow call call') (ps : List Participant) (x : Int32) :
    Below (m.foldHashVia call this ps x) (m.foldHashVia call' this ps x) := by
  induction ps generalizing x with
  | nil => exact .refl _
  | cons p ps ih =>
    exact .bind (.refl _) fun v => (m.below_hashVia hcall v).bind fun y => ih _

variable {m this that}

theorem carries_equals (hne : this ≠ that) :
    m.Carries that.cls (fun call start => m.equalsFrom call start this (.object that))
      (fun call => m.compareVia call this that) true where
  zero_below hc x := by
    rw [equalsFrom, m.superVia_of_some .equals hc.equals]
    exact .throw x
  asking hc hcls hcall := by
    rw [m.equalsFrom_of_lookup hc.equals, equalsBody, if_pos hcall, m.equalsOwn_of_ne hne hcls]
    refine bind_congr fun b => ?_
    cases b <;> rfl
  not_asking hc hcls hcall := by
    rw [m.equalsFrom_of_lookup hc.equals, equalsBody, hcall, m.equalsOwn_of_ne hne hcls]
    rfl
  append call ps qs b := by
    cases b with
    | true => exact m.agreeVia_append call this that ps qs
    | false => rfl
  below ps b hcall := by
    cases b with
    | true => exact m.below_agreeVia this that hcall ps
    | false => exact .refl _

theorem carries_hash (m : Machine) (this : ObjectRef) (cls : ClassName) :
    m.Carries cls (fun call start => m.hashFrom call start this)
      (fun call => m.foldHashVia call this) Synthesis.hashSeed where
  zero_below hc x := by
    rw [hashFrom, m.superVia_of_some .hash hc.hash]
    exact .throw x
  asking hc _ hcall := by rw [m.hashFrom_of_lookup hc.hash, hashBody, if_pos hcall]
  not_asking hc _ hcall := by
    rw [m.hashFrom_of_lookup hc.hash, hashBody, hcall]
    rfl
  append call ps qs x := m.foldHashVia_append call this ps qs x
  below ps x hcall := m.below_foldHashVia this hcall ps x

end Machine

/-- On two objects of the first class of a chain, equality and hash are what they would be if that
class had all the properties of the chain and asked nothing of its superclass. -/
theorem IsProgram.ends_flatten_iff {ss : List ClassSynthesis} (hss : IsProgram ss) {c : ClassDecl}
    {cs : List ClassDecl} (hasks : AsksUp (c :: cs))
    (hready : ∀ d ∈ c :: cs, ReadyIn ss .equality d)
    {a b : ObjectRef} (ha : a.cls = c.name) (hb : b.cls = c.name) (hne : a ≠ b) (h : Heap) :
    let m := Machine.holding ss
    (∀ r h', Ends (m.equals · (.object a) (.object b)) h r h' ↔
      Ends (fun depth => m.agreeVia (m.invoke depth) a b (flatten (c :: cs))) h r h') ∧
    (∀ r h', Ends (m.hash · (.object a)) h r h' ↔
      Ends (fun depth => do
        let ys ← m.hashesVia (m.invoke depth) a (flatten (c :: cs))
        return Int32.ofInt (Hash.polynomial 17 (ys.map Int32.toInt))) h r h') := by
  intro m
  have hcls : m.isSubclass c.name c.name = true := (Machine.isSubclass_iff _).mpr .refl
  constructor
  · intro r h'
    simp only [Machine.equals, m.equalsVia_object (root_holding ss), ha]
    exact hss.ends_ask_iff (Machine.carries_equals hne) hasks hready (hb ▸ hcls) h r h'
  · intro r h'
    simp only [Machine.hash, m.hashVia_object (root_holding ss), ha, ← m.foldHashVia_seed]
    exact hss.ends_ask_iff (m.carries_hash a c.name) hasks hready hcls h r h'

namespace Chain

theorem asksUp : AsksUp [link, node] := .link rfl rfl rfl (.last rfl rfl)

theorem readyIn {c : ClassDecl} (hc : c ∈ [link, node]) : ReadyIn program .equality c := by
  refine ⟨.new .standard, .new _, ?_, List.mem_map_of_mem (List.mem_cons_of_mem _ hc)⟩
  revert c
  decide

end Chain

/-- 17 carried through 1, the hash of the next link and 0. -/
theorem IsProgram.ends_flatten_iff_chain :
    Ends ((Machine.holding Chain.program).equals · (.object Chain.before) (.object Chain.again))
        Chain.heap (.ok true) Chain.heap ∧
      Ends ((Machine.holding Chain.program).hash · (.object Chain.before)) Chain.heap
        (.ok 16266847) Chain.heap := by
  have hflat := Chain.isProgram.ends_flatten_iff Chain.asksUp (fun _ => Chain.readyIn)
    (a := Chain.before) (b := Chain.again) rfl rfl (by decide) Chain.heap
  exact ⟨(hflat.1 _ _).mpr ⟨3, rfl⟩, (hflat.2 _ _).mpr ⟨3, rfl⟩⟩

end Memberwise
