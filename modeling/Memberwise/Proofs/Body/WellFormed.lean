import Memberwise.Proofs.Engine.Requests
import Memberwise.Proofs.Printing.Bodies

/-!
# Well-formed bodies

A body is well formed if it returns once, at its end, and each statement fits what stands before it:
it uses locals and parameters that there are, calls upwards with the right number of arguments and
writes only where that is the member's work. Every body that is made for a class or a builder is
well formed, whatever an engine holds in its cache.
-/

namespace Memberwise

def ObjectMethod.arity : ObjectMethod → Nat
  | equals => 1
  | hash | print => 0

inductive Use
  | local (name : String)
  | param (name : String)
  /-- A call upwards with so many arguments. -/
  | superCall (method : ObjectMethod) (count : Nat)
deriving DecidableEq, Repr

namespace Expr

mutual

/-- The uses in an expression and in all expressions that it is made of. -/
def uses : Expr → List Use
  | .local name => [.local name]
  | .param name => [.param name]
  | .superCall _ method args => .superCall method args.length :: usesAll args
  | .property e _ _ | .not e | .isNull e | .isInstance e _ | .cast e _ | .hashOf e _
  | .stringify e => uses e
  | .guardedProperty a _ _ b | .sameRef a b | .valueEq a b | .add a b | .mul a b => uses a ++ uses b
  | .concat parts => usesAll parts
  | .cond c a b => uses c ++ (uses a ++ uses b)
  | .new _ args => usesFields args
  | .null | .bool _ | .int _ | .text _ | .this | .defaultOf _ _ => []
termination_by structural e => e

def usesAll : List Expr → List Use
  | [] => []
  | e :: es => uses e ++ usesAll es
termination_by structural es => es

def usesFields : List (String × Expr) → List Use
  | [] => []
  | (_, e) :: es => uses e ++ usesFields es
termination_by structural es => es

end

theorem usesAll_append (es es' : List Expr) : usesAll (es ++ es') = usesAll es ++ usesAll es' := by
  induction es with
  | nil => rfl
  | cons e es ih => rw [List.cons_append, usesAll, usesAll, ih, List.append_assoc]

theorem usesFields_eq_nil {es : List (String × Expr)} (hes : ∀ e ∈ es, e.2.uses = []) :
    usesFields es = [] := by
  induction es with
  | nil => rfl
  | cons e es ih =>
    rw [usesFields, hes e List.mem_cons_self, List.nil_append]
    exact ih fun e' he' => hes e' (List.mem_cons_of_mem e he')

end Expr

def Stmt.uses : Stmt → List Use
  | .let_ _ e | .assign _ e | .throwIf e _ | .return_ e => e.uses
  | .setField a _ b | .ifReturn a b => a.uses ++ b.uses

/-- A use of what there is: a local that is bound, a parameter of the signature, or a call upwards
with as many arguments as the method takes. -/
def Use.Fits (signature : Signature) (bound : String → Prop) : Use → Prop
  | .local name => bound name
  | .param name => ∃ p ∈ signature.params, p.name = name
  | .superCall method count => count = method.arity

/-- A statement that can stand in the body of a member where these locals are bound. Only setters
write, and only to the receiver. -/
structure Stmt.Fits (member : Member) (signature : Signature) (bound : String → Prop)
    (stmt : Stmt) : Prop where
  uses : ∀ use ∈ stmt.uses, use.Fits signature bound
  assigns : ∀ name value, stmt = .assign name value → bound name
  writes : ∀ receiver name value, stmt = .setField receiver name value →
    receiver = .this ∧ ∃ param, member = .setter param

/-- The body can stand for the member: it returns once, at its end, and every statement fits the
locals that statements before it have bound. -/
structure Body.WellFormed (member : Member) (body : Body) : Prop where
  returns : ∃ init value, body.stmts = init ++ [.return_ value] ∧ ∀ other, .return_ other ∉ init
  fits : ∀ before stmt after, body.stmts = before ++ stmt :: after →
    stmt.Fits member body.signature fun name => ∃ value, .let_ name value ∈ before

section

variable {member : Member} {signature : Signature} {bound bound' : String → Prop}

theorem Use.Fits.mono {use : Use} (huse : use.Fits signature bound)
    (hbound : ∀ name, bound name → bound' name) : use.Fits signature bound' := by
  cases use with
  | «local» name => exact hbound name huse
  | param name => exact huse
  | superCall method count => exact huse

theorem Stmt.Fits.mono {stmt : Stmt} (hstmt : stmt.Fits member signature bound)
    (hbound : ∀ name, bound name → bound' name) : stmt.Fits member signature bound' where
  uses use huse := (hstmt.uses use huse).mono hbound
  assigns name value h := hbound name (hstmt.assigns name value h)
  writes := hstmt.writes

structure Stmt.Precedes (member : Member) (signature : Signature) (bound : String → Prop)
    (stmt : Stmt) : Prop extends stmt.Fits member signature bound where
  ne_return : ∀ value, stmt ≠ .return_ value

/-- Statements that need no local, then statements that need no others than these have bound. -/
theorem Body.WellFormed.of_append {body : Body} (opening rest : List Stmt) {value : Expr}
    (hstmts : body.stmts = opening ++ (rest ++ [.return_ value]))
    (hopening : ∀ stmt ∈ opening, stmt.Precedes member body.signature fun _ => False)
    (hrest : ∀ stmt ∈ rest,
      stmt.Precedes member body.signature fun name => ∃ value, .let_ name value ∈ opening)
    (hvalue : ∀ use ∈ value.uses,
      use.Fits body.signature fun name => ∃ value, .let_ name value ∈ opening) :
    body.WellFormed member where
  returns := by
    refine ⟨opening ++ rest, value, by rw [hstmts, List.append_assoc], fun other hother => ?_⟩
    rcases List.mem_append.mp hother with hother | hother
    · exact (hopening _ hother).ne_return other rfl
    · exact (hrest _ hother).ne_return other rfl
  fits before stmt after hsplit := by
    have hlater (hmem : stmt ∈ rest ++ [.return_ value]) :
        stmt.Fits member body.signature fun name => ∃ value, .let_ name value ∈ opening := by
      rcases List.mem_append.mp hmem with hmem | hmem
      · exact (hrest stmt hmem).toFits
      · obtain rfl := List.mem_singleton.mp hmem
        exact ⟨hvalue, nofun, nofun⟩
    rw [hstmts] at hsplit
    rcases List.append_eq_append_iff.mp hsplit with ⟨between, rfl, heq⟩ | ⟨between, heq, hlast⟩
    · have hmem : stmt ∈ rest ++ [.return_ value] := heq ▸ by simp
      exact (hlater hmem).mono fun name ⟨v, hv⟩ => ⟨v, List.mem_append_left between hv⟩
    · cases between with
      | nil =>
        rw [List.append_nil] at heq
        have hmem : stmt ∈ rest ++ [.return_ value] := by
          rw [← List.nil_append (rest ++ _), ← hlast]
          exact List.mem_cons_self
        exact heq ▸ hlater hmem
      | cons first between =>
        cases hlast
        have hmem : stmt ∈ opening := heq ▸ by simp
        exact (hopening stmt hmem).mono fun _ h => h.elim

end

namespace Synthesis

theorem uses_guardedRead (receiver : Expr) (p : Property) (useFields : Bool) :
    (guardedRead receiver p useFields).uses = receiver.uses := by
  unfold guardedRead read
  split
  · exact List.append_nil _
  · rfl

theorem uses_compareStmt (useFields : Bool) (p : Property) :
    (compareStmt useFields p).uses = [.local castLocal] := by
  change (guardedRead .this p useFields).uses ++
    (guardedRead (.local castLocal) p useFields).uses ++ [] = _
  rw [uses_guardedRead, uses_guardedRead]
  rfl

theorem uses_hashStep (useFields : Bool) (p : Property) :
    (hashStep useFields p).uses = [.local hashLocal] := by
  change [Use.local hashLocal] ++ [] ++ (guardedRead .this p useFields).uses = _
  rw [uses_guardedRead]
  rfl

section Equality

variable (cls : ClassName) (superclass : Option ClassName) (options : EqualityOptions)
  (ps : List Participant)

def equalsOpening : List Stmt :=
  (if options.callSuper then [askSuper superclass] else []) ++
  [.ifReturn (.sameRef .this (.param otherParam)) (.bool true),
    .ifReturn (.not (.isInstance (.param otherParam) cls)) (.bool false),
    .let_ castLocal (.cast (.param otherParam) cls)]

theorem precedes_equalsOpening {stmt : Stmt} (hstmt : stmt ∈ equalsOpening cls superclass options) :
    stmt.Precedes .equals (equals cls superclass options ps).body.signature fun _ => False := by
  have hother (bound : String → Prop) :
      (Use.param otherParam).Fits (equals cls superclass options ps).body.signature bound :=
    ⟨_, List.mem_singleton_self _, rfl⟩
  rcases List.mem_append.mp hstmt with hsuper | hown
  · split at hsuper
    · obtain rfl := List.mem_singleton.mp hsuper
      refine ⟨⟨?_, nofun, nofun⟩, nofun⟩
      exact List.forall_mem_cons.mpr ⟨rfl, List.forall_mem_singleton.mpr (hother _)⟩
    · cases hsuper
  · simp only [List.mem_cons, List.not_mem_nil, or_false] at hown
    rcases hown with rfl | rfl | rfl <;>
      exact ⟨⟨List.forall_mem_singleton.mpr (hother _), nofun, nofun⟩, nofun⟩

theorem wellFormed_equals : (equals cls superclass options ps).body.WellFormed .equals := by
  have hcast : .let_ castLocal (.cast (.param otherParam) cls) ∈
      equalsOpening cls superclass options := List.mem_append_right _ (by simp)
  refine .of_append _ _ (List.append_assoc _ _ _) (fun _ => precedes_equalsOpening _ _ _ _) ?_ nofun
  intro stmt hstmt
  obtain ⟨p, -, rfl⟩ := List.mem_map.mp hstmt
  refine ⟨⟨?_, nofun, nofun⟩, nofun⟩
  rw [uses_compareStmt]
  exact List.forall_mem_singleton.mpr ⟨_, hcast⟩

theorem uses_hashStart (signature : Signature) (bound : String → Prop) :
    ∀ use ∈ (hashStart superclass options).uses, use.Fits signature bound := by
  unfold hashStart
  split
  · exact List.forall_mem_singleton.mpr rfl
  · nofun

theorem wellFormed_hash : (hash cls superclass options ps).body.WellFormed .hash := by
  have hstart := uses_hashStart superclass options
    (hash cls superclass options ps).body.signature
  cases ps with
  | nil => exact .of_append [] [] rfl nofun nofun (hstart _)
  | cons p ps =>
    have hlet : .let_ hashLocal (hashStart superclass options) ∈
        [Stmt.let_ hashLocal (hashStart superclass options)] := List.mem_singleton_self _
    refine .of_append _ _ (List.append_assoc _ _ _) ?_ ?_ (List.forall_mem_singleton.mpr ⟨_, hlet⟩)
    · exact List.forall_mem_singleton.mpr ⟨⟨hstart _, nofun, nofun⟩, nofun⟩
    · intro stmt hstmt
      obtain ⟨q, -, rfl⟩ := List.mem_map.mp hstmt
      refine ⟨⟨?_, ?_, nofun⟩, nofun⟩
      · rw [uses_hashStep]
        exact List.forall_mem_singleton.mpr ⟨_, hlet⟩
      · rintro name value ⟨⟩
        exact ⟨_, hlet⟩

end Equality

section Printing

variable (cls : ClassName) (superclass : Option ClassName) (options : PrintingOptions)
  (ps : List Participant)

theorem fits_of_mem_segments {s : Segment} (hs : s ∈ segments superclass options ps)
    {signature : Signature} {bound : String → Prop} {use : Use} (huse : use ∈ s.2.uses) :
    use.Fits signature bound := by
  rcases List.mem_append.mp hs with hsuper | hown
  · split at hsuper
    · obtain rfl := List.mem_singleton.mp hsuper
      obtain rfl := List.mem_singleton.mp huse
      rfl
    · cases hsuper
  · obtain ⟨p, -, rfl⟩ := List.mem_map.mp hown
    cases huse

theorem wellFormed_print : (print cls superclass options ps).body.WellFormed .print := by
  refine .of_append [] [] rfl nofun nofun fun use huse => ?_
  rw [Expr.uses, collect_printParts Expr.usesAll_append (fun _ => rfl)] at huse
  obtain ⟨s, hs, huse⟩ := List.mem_flatMap.mp huse
  rw [Expr.usesAll, Expr.uses, Expr.usesAll, List.append_nil] at huse
  exact fits_of_mem_segments superclass options ps hs huse

end Printing

section Building

variable (plan : BuilderPlan)

theorem wellFormed_setter (slot : Slot) :
    (setter plan slot).body.WellFormed (.setter slot.param.name) := by
  refine .of_append _ [] rfl ?_ nofun nofun
  intro stmt hstmt
  rcases List.mem_append.mp hstmt with hvalue | hflag
  · obtain rfl := List.mem_singleton.mp hvalue
    refine ⟨⟨?_, nofun, ?_⟩, nofun⟩
    · exact List.forall_mem_singleton.mpr ⟨_, List.mem_singleton_self _, rfl⟩
    · rintro _ _ _ ⟨⟩
      exact ⟨rfl, _, rfl⟩
  · obtain ⟨flag, -, rfl⟩ := List.mem_map.mp hflag
    refine ⟨⟨nofun, nofun, ?_⟩, nofun⟩
    rintro _ _ _ ⟨⟩
    exact ⟨rfl, _, rfl⟩

theorem uses_argument (slot : Slot) : (argument slot).uses = [] := by
  unfold argument
  dsimp only
  split <;> rfl

theorem wellFormed_build : (build plan).body.WellFormed .build := by
  have hargs :
      Expr.usesFields (plan.slots.map fun slot => (slot.param.name, argument slot)) = [] := by
    refine Expr.usesFields_eq_nil fun arg harg => ?_
    obtain ⟨slot, -, rfl⟩ := List.mem_map.mp harg
    exact uses_argument slot
  refine .of_append _ [] rfl ?_ nofun ?_
  · intro stmt hstmt
    obtain ⟨slot, -, rfl⟩ := List.mem_map.mp hstmt
    exact ⟨⟨nofun, nofun, nofun⟩, nofun⟩
  · rw [Expr.uses, hargs]
    nofun

end Building

end Synthesis

open Tracked

theorem makeMember_wellFormed (c : ClassDecl) (member : Member) :
    Ensures (makeMember c member) fun made =>
      ∀ x, made = .ok x → x.body.WellFormed x.member := by
  unfold makeMember
  cases member with
  | equals | hash =>
    refine (Ensures.any (Tracked.resolve c .equality)).bind fun r _ => ?_
    cases c.annotations.equality <;> cases r <;> rintro t x ⟨⟩
    first
    | exact Synthesis.wellFormed_equals _ _ _ _
    | exact Synthesis.wellFormed_hash _ _ _ _
  | print =>
    refine (Ensures.any (Tracked.resolve c .printing)).bind fun r _ => ?_
    cases c.annotations.printing <;> cases r <;> rintro t x ⟨⟩
    exact Synthesis.wellFormed_print _ _ _ _
  | setter param =>
    cases BuilderPlan.ofClass? c with
    | none => rintro t x ⟨⟩
    | some plan =>
      dsimp only
      cases plan.slot? param <;> rintro t x ⟨⟩
      exact Synthesis.wellFormed_setter plan _
  | build =>
    cases BuilderPlan.ofClass? c <;> rintro t x ⟨⟩
    exact Synthesis.wellFormed_build _

theorem generate_wellFormed (c : ClassDecl) (member : Member) :
    Ensures (generate c member) fun made =>
      ∀ x, made = .ok x → x.body.WellFormed x.member := by
  refine (makeMember_wellFormed c member).bind fun made hmade => ?_
  cases made with
  | ok method => exact fun _ => hmade
  | error refusal => exact fun _ => nofun

theorem generateAll_wellFormed (c : ClassDecl) (members : List Member) :
    Ensures (generateAll c members) fun xs => ∀ x ∈ xs, x.body.WellFormed x.member := by
  induction members with
  | nil => exact fun _ => nofun
  | cons member members ih =>
    refine (generate_wellFormed c member).bind fun made hmade => ?_
    cases made with
    | ok method =>
      exact ih.bind fun xs hxs _ => List.forall_mem_cons.mpr ⟨hmade method rfl, hxs⟩
    | error refusal => exact (Ensures.any _).bind fun _ _ => ih

theorem generateFamily_wellFormed (c : ClassDecl) (family : Family) (report : Report) :
    Ensures (generateFamily c family report) fun xs => ∀ x ∈ xs, x.body.WellFormed x.member := by
  refine (Ensures.any _).bind fun _ _ => ?_
  split
  · exact generateAll_wellFormed c _
  · exact fun _ => nofun

def ClassSynthesis.WellFormed (s : ClassSynthesis) : Prop :=
  ∀ x ∈ s.methods, x.body.WellFormed x.member

theorem synthesizeFamily_wellFormed (strictness : Strictness) (c : ClassDecl)
    (made : ClassSynthesis) (family : Family) (hmade : made.WellFormed) :
    Ensures (synthesizeFamily strictness c made family) ClassSynthesis.WellFormed :=
  (generateFamily_wellFormed c family _).bind fun _ hmethods _ =>
    List.forall_mem_append.mpr ⟨hmade, hmethods⟩

theorem synthesizeClass_wellFormed (e : Engine) (c : ClassDecl) :
    (e.synthesizeClass c).1.WellFormed := by
  apply e.run_of_ensures
  refine (Ensures.foldlM (synthesizeFamily_wellFormed e.strictness c) Family.all ?_).bind ?_
  · exact fun _ => nofun
  · exact fun made hmade => (Ensures.any _).bind fun _ _ _ => hmade

namespace Method

/-- The method comes from an engine in any state, or was made for a builder. -/
inductive Generated : Method → Prop
  | synthesize (e : Engine) (member : Member) (c : ClassDecl) {x : Method}
    (hx : (e.synthesize member c).1 = .ok x) : Generated x
  | synthesizeClass (e : Engine) (c : ClassDecl) {x : Method}
    (hx : x ∈ (e.synthesizeClass c).1.methods) : Generated x
  | setter (plan : BuilderPlan) (slot : Slot) : Generated (Synthesis.setter plan slot)
  | build (plan : BuilderPlan) : Generated (Synthesis.build plan)

theorem Generated.wellFormed {x : Method} (hx : x.Generated) : x.body.WellFormed x.member := by
  cases hx with
  | synthesize e member c hx =>
    unfold Engine.synthesize at hx
    dsimp only at hx
    split at hx
    · cases hx
    · exact e.run_of_ensures (generate_wellFormed c member) x hx
  | synthesizeClass e c hx => exact synthesizeClass_wellFormed e c _ hx
  | setter plan slot => exact Synthesis.wellFormed_setter plan slot
  | build plan => exact Synthesis.wellFormed_build plan

end Method

end Memberwise
