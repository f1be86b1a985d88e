import Memberwise.Proofs.Engine.Accounting

/-!
# What an engine asks of its cache

Making a member of equality or printing asks for one resolution, and making a member of a builder
asks for none. Checks never ask, so that a refusal leaves the engine as it was. When a class is
synthesized, the hash asks for what equality has asked for just before and is answered from the
cache, whatever the cache held.
-/

namespace Memberwise

namespace Cache

theorem lookup_cases (cache : Cache) (c : ClassDecl) (policy : InclusionPolicy) :
    (∃ slot, cache.slots.get? (c.name, policy.family) = some slot ∧
      slot.answersFor policy c.properties = true ∧
      (cache.lookup c policy).2.1 = { cache with hits := cache.hits + 1 }) ∨
    ∃ stale, (cache.lookup c policy).2.1 = (cache.store c policy stale).2 := by
  cases hslot : cache.slots.get? (c.name, policy.family) with
  | none =>
    rw [lookup_of_none hslot]
    exact .inr ⟨0, rfl⟩
  | some slot =>
    cases hanswers : slot.answersFor policy c.properties with
    | true =>
      rw [lookup_of_answersFor hslot hanswers]
      exact .inl ⟨slot, rfl, hanswers, rfl⟩
    | false =>
      rw [lookup_of_not_answersFor hslot hanswers]
      exact .inr ⟨1, rfl⟩

theorem exists_slot_lookup (cache : Cache) (c : ClassDecl) (policy : InclusionPolicy) :
    ∃ slot, (cache.lookup c policy).2.1.slots.get? (c.name, policy.family) = some slot ∧
      slot.answersFor policy c.properties = true := by
  obtain ⟨slot, hslot, hanswers, hnext⟩ | ⟨stale, hnext⟩ := cache.lookup_cases c policy
  · rw [hnext]
    exact ⟨slot, hslot, hanswers⟩
  · rw [hnext]
    exact ⟨.compute policy c.properties, Table.get?_insert_self _ _ _,
      answersFor_iff.mpr ⟨rfl, rfl⟩⟩

def asked (cache : Cache) : Nat := cache.hits + cache.misses

theorem asked_lookup (cache : Cache) (c : ClassDecl) (policy : InclusionPolicy) :
    (cache.lookup c policy).2.1.asked = cache.asked + 1 := by
  obtain ⟨-, -, -, hnext⟩ | ⟨stale, hnext⟩ := cache.lookup_cases c policy
  · rw [hnext]
    exact Nat.add_right_comm _ _ _
  · rw [hnext]
    rfl

section

variable {c : ClassDecl} {family : Family} {policy : InclusionPolicy}
  (hpolicy : InclusionPolicy.ofClass? c family = some policy)

include hpolicy

theorem resolve_of_policy (cache : Cache) : cache.resolve c family =
    (some (cache.lookup c policy).1, (cache.lookup c policy).2.1, (cache.lookup c policy).2.2) := by
  rw [Cache.resolve, hpolicy]

theorem asked_serve (cache : Cache) :
    (cache.serve (.resolve c family)).asked = cache.asked + 1 := by
  rw [serve, resolve_of_policy hpolicy, asked_lookup]

/-- A request that is made again at once is a hit, whatever the cache held before the first. -/
theorem serve_serve (cache : Cache) :
    let first := cache.serve (.resolve c family)
    first.serve (.resolve c family) = { first with hits := first.hits + 1 } := by
  intro first
  have hfirst : first = (cache.lookup c policy).2.1 := by
    simp only [first, serve, resolve_of_policy hpolicy]
  obtain ⟨slot, hslot, hanswers⟩ := cache.exists_slot_lookup c policy
  rw [← hfirst] at hslot
  rw [serve, resolve_of_policy hpolicy, lookup_of_answersFor hslot hanswers]

end

theorem asked_foldl_serve {requests : List Request}
    (hall : ∀ request ∈ requests, ∃ c family policy, request = .resolve c family ∧
      InclusionPolicy.ofClass? c family = some policy) (cache : Cache) :
    (requests.foldl serve cache).asked = cache.asked + requests.length := by
  induction requests generalizing cache with
  | nil => rfl
  | cons request requests ih =>
    obtain ⟨c, family, policy, rfl, hpolicy⟩ := hall request List.mem_cons_self
    rw [List.foldl_cons, ih (fun other hother => hall other (List.mem_cons_of_mem _ hother)),
      asked_serve hpolicy, List.length_cons, Nat.add_assoc, Nat.add_comm 1]

end Cache

open Cache (Request)

namespace Tracked

variable {α β : Type}

/-- From every cache, `x` makes these requests in this order and no others. -/
def Asks (x : Tracked α) (requests : List Request) : Prop :=
  ∀ t, (x t).2.cache = requests.foldl Cache.serve t.cache

theorem Asks.pure (a : α) : Asks (pure a) [] := fun _ => rfl

theorem Asks.bind {x : Tracked α} {f : α → Tracked β} {requests more : List Request}
    (hx : Asks x requests) (hf : ∀ a, Asks (f a) more) : Asks (x >>= f) (requests ++ more) := by
  intro t
  rw [List.foldl_append, ← hx t]
  exact hf (x t).1 (x t).2

theorem Asks.foldlM {f : β → α → Tracked β} {requests : α → List Request}
    (hf : ∀ b a, Asks (f b a) (requests a)) (as : List α) (b : β) :
    Asks (as.foldlM f b) (as.flatMap requests) := by
  induction as generalizing b with
  | nil => exact .pure b
  | cons a as ih =>
    rw [List.foldlM_cons, List.flatMap_cons]
    exact (hf b a).bind ih

theorem Asks.bind_silent {x : Tracked α} {f : α → Tracked β} {requests : List Request}
    (hx : Asks x requests) (hf : ∀ a, Asks (f a) []) : Asks (x >>= f) requests := by
  have hbind := hx.bind hf
  rwa [List.append_nil] at hbind

theorem Asks.note (events : List Event) : Asks (note events) [] := fun _ => rfl

theorem Asks.resolve (c : ClassDecl) (family : Family) :
    Asks (resolve c family) [.resolve c family] := fun _ => rfl

/-- From every cache, sound or not, the result of `x` is as `p` says. -/
def Ensures (x : Tracked α) (p : α → Prop) : Prop := ∀ t, p (x t).1

theorem Ensures.any (x : Tracked α) : Ensures x fun _ => True := fun _ => trivial

theorem Ensures.bind {x : Tracked α} {f : α → Tracked β} {p : α → Prop} {q : β → Prop}
    (hx : Ensures x p) (hf : ∀ a, p a → Ensures (f a) q) : Ensures (x >>= f) q :=
  fun t => hf (x t).1 (hx t) (x t).2

theorem Ensures.foldlM {f : β → α → Tracked β} {p : β → Prop}
    (hf : ∀ b a, p b → Ensures (f b a) p) (as : List α) {b : β} (hb : p b) :
    Ensures (as.foldlM f b) p := by
  induction as generalizing b with
  | nil => exact fun _ => hb
  | cons a as ih =>
    rw [List.foldlM_cons]
    exact (hf b a hb).bind fun _ hb => ih hb

theorem Ensures.resolve {c : ClassDecl} {family : Family} {policy : InclusionPolicy}
    (hpolicy : InclusionPolicy.ofClass? c family = some policy) :
    Ensures (resolve c family) fun r => ∃ resolution, r = some resolution := by
  intro t
  rw [Tracked.resolve, Cache.resolve_of_policy hpolicy]
  exact ⟨_, rfl⟩

end Tracked

open Tracked

def Member.requests (c : ClassDecl) : Member → List Request
  | .equals | .hash => [.resolve c .equality]
  | .print => [.resolve c .printing]
  | .setter _ | .build => []

namespace Member

variable (c : ClassDecl) {member : Member}

theorem requests_of_building (hfamily : member.family = .building) : member.requests c = [] := by
  cases member with
  | equals | hash | print => cases hfamily
  | setter _ | build => rfl

theorem requests_of_ne_building (hfamily : member.family ≠ .building) :
    member.requests c = [.resolve c member.family] := by
  cases member with
  | equals | hash | print => rfl
  | setter _ | build => exact absurd rfl hfamily

end Member

theorem makeMember_asks (c : ClassDecl) (member : Member) :
    Asks (makeMember c member) (member.requests c) := by
  unfold makeMember
  cases member with
  | equals | hash =>
    refine (Asks.resolve c .equality).bind_silent fun r => ?_
    cases c.annotations.equality <;> cases r <;> exact .pure _
  | print =>
    refine (Asks.resolve c .printing).bind_silent fun r => ?_
    cases c.annotations.printing <;> cases r <;> exact .pure _
  | setter param =>
    cases BuilderPlan.ofClass? c with
    | none => exact .pure _
    | some plan =>
      dsimp only
      cases plan.slot? param <;> exact .pure _
  | build => cases BuilderPlan.ofClass? c <;> exact .pure _

theorem generate_asks (c : ClassDecl) (member : Member) :
    Asks (generate c member) (member.requests c) := by
  refine (makeMember_asks c member).bind_silent fun made => ?_
  cases made with
  | ok method => exact (Asks.note _).bind_silent fun _ => .pure _
  | error refusal => exact .pure _

theorem generateAll_asks (c : ClassDecl) (members : List Member) :
    Asks (generateAll c members) (members.flatMap (Member.requests c)) := by
  induction members with
  | nil => exact .pure _
  | cons member members ih =>
    refine (generate_asks c member).bind fun made => ?_
    cases made with
    | ok method => exact ih.bind_silent fun _ => .pure _
    | error refusal => exact (Asks.note _).bind fun _ => ih

/-- Equality is made of two members, printing of one; builder members ask for nothing. -/
def Family.requests (c : ClassDecl) : Family → List Request
  | .equality => [.resolve c .equality, .resolve c .equality]
  | .printing => [.resolve c .printing]
  | .building => []

theorem flatMap_requests_membersOf (c : ClassDecl) (family : Family) :
    (membersOf c family).flatMap (Member.requests c) = family.requests c := by
  cases family with
  | equality | printing => rfl
  | building =>
    exact List.flatMap_eq_nil_iff.mpr fun member hmember =>
      member.requests_of_building c (family_of_mem_membersOf hmember)

def readyRequests (strictness : Strictness) (c : ClassDecl) (family : Family) : List Request :=
  if (checkFamily c strictness family).isReady then family.requests c else []

theorem readyRequests_building (strictness : Strictness) (c : ClassDecl) :
    readyRequests strictness c .building = [] := by
  unfold readyRequests
  split <;> rfl

theorem generateFamily_asks (strictness : Strictness) (c : ClassDecl) (family : Family) :
    Asks (generateFamily c family (checkFamily c strictness family))
      (readyRequests strictness c family) := by
  unfold generateFamily readyRequests
  by_cases hready : (checkFamily c strictness family).isReady = true
  · simp only [hready, if_true]
    rw [← flatMap_requests_membersOf]
    exact (Asks.note _).bind fun _ => generateAll_asks c _
  · simp only [hready]
    exact (Asks.note _).bind fun _ => .pure _

theorem synthesizeFamily_asks (strictness : Strictness) (c : ClassDecl) (made : ClassSynthesis)
    (family : Family) :
    Asks (synthesizeFamily strictness c made family) (readyRequests strictness c family) :=
  (generateFamily_asks strictness c family).bind_silent fun _ => .pure _

section Ready

variable {strictness : Strictness} {c : ClassDecl}

theorem exists_policy_of_ready {family : Family}
    (hready : (checkFamily c strictness family).isReady = true) (hfamily : family ≠ .building) :
    ∃ policy, InclusionPolicy.ofClass? c family = some policy := by
  cases family with
  | equality =>
    obtain ⟨options, hoptions⟩ := exists_equality_of_ready hready
    exact ⟨_, by rw [InclusionPolicy.ofClass?, hoptions]; rfl⟩
  | printing =>
    obtain ⟨options, hoptions⟩ := exists_printing_of_ready hready
    exact ⟨_, by rw [InclusionPolicy.ofClass?, hoptions]; rfl⟩
  | building => exact absurd rfl hfamily

theorem exists_policy_of_mem_readyRequests {family : Family} {request : Request}
    (hrequest : request ∈ readyRequests strictness c family) :
    ∃ c family policy, request = .resolve c family ∧
      InclusionPolicy.ofClass? c family = some policy := by
  unfold readyRequests at hrequest
  split at hrequest
  · rename_i hready
    cases family with
    | equality | printing =>
      obtain ⟨policy, hpolicy⟩ := exists_policy_of_ready hready (by decide)
      simp only [Family.requests, List.mem_cons, List.not_mem_nil, or_false, or_self] at hrequest
      exact ⟨c, _, policy, hrequest, hpolicy⟩
    | building => cases hrequest
  · cases hrequest

variable {member : Member} (hready : (checkFamily c strictness member.family).isReady = true)
  (hfamily : member.family ≠ .building)

include hready hfamily

/-- Once its family is found ready, a member is not refused, unless it is a setter. -/
theorem makeMember_of_ready :
    Ensures (makeMember c member) fun made => ∃ method, made = .ok method := by
  obtain ⟨policy, hpolicy⟩ := exists_policy_of_ready hready hfamily
  cases member with
  | equals | hash =>
    obtain ⟨options, hoptions⟩ := exists_equality_of_ready hready
    refine (Ensures.resolve hpolicy).bind ?_
    rintro _ ⟨r, rfl⟩
    rw [hoptions]
    exact fun _ => ⟨_, rfl⟩
  | print =>
    obtain ⟨options, hoptions⟩ := exists_printing_of_ready hready
    refine (Ensures.resolve hpolicy).bind ?_
    rintro _ ⟨r, rfl⟩
    rw [hoptions]
    exact fun _ => ⟨_, rfl⟩
  | setter _ | build => exact absurd rfl hfamily

theorem generate_of_ready :
    Ensures (generate c member) fun made => ∃ method, made = .ok method := by
  refine (makeMember_of_ready hready hfamily).bind ?_
  rintro _ ⟨method, rfl⟩
  exact fun _ => ⟨method, rfl⟩

end Ready

namespace Engine

variable (e : Engine) (c : ClassDecl)

theorem run_of_asks {α : Type} {op : Tracked α} {requests : List Request} (hop : Asks op requests) :
    (e.run op).2.1 = { e with cache := requests.foldl Cache.serve e.cache } := by
  rw [← hop ⟨e.cache, []⟩]
  rfl

theorem run_of_ensures {α : Type} {op : Tracked α} {p : α → Prop} (hop : Ensures op p) :
    p (e.run op).1 :=
  hop ⟨e.cache, []⟩

theorem synthesize_of_not_ready {member : Member}
    (hready : (e.check c member.family).isReady ≠ true) :
    (∃ refusal, (e.synthesize member c).1 = .error refusal) ∧
      (e.synthesize member c).2.1 = e := by
  obtain ⟨refusal, hrefusal⟩ : ∃ refusal,
      (e.check c member.family).refusal? c.name = some refusal :=
    Option.ne_none_iff_exists'.mp (mt refusal?_eq_none_iff.mp hready)
  rw [Engine.synthesize, hrefusal]
  exact ⟨⟨refusal, rfl⟩, rfl⟩

theorem synthesize_of_ready {member : Member}
    (hready : (e.check c member.family).isReady = true) :
    (e.synthesize member c).1 = (e.run (generate c member)).1 ∧
      (e.synthesize member c).2.1 =
        { e with cache := (member.requests c).foldl Cache.serve e.cache } := by
  rw [Engine.synthesize, refusal?_eq_none_iff.mpr hready]
  exact ⟨rfl, e.run_of_asks (generate_asks c member)⟩

/-- A member that is not made leaves the engine as it was. -/
theorem synthesize_of_error {member : Member} {refusal : Refusal}
    (herror : (e.synthesize member c).1 = .error refusal) : (e.synthesize member c).2.1 = e := by
  by_cases hready : (e.check c member.family).isReady = true
  · obtain ⟨hmade, hengine⟩ := e.synthesize_of_ready c hready
    by_cases hfamily : member.family = .building
    · rw [hengine, member.requests_of_building c hfamily]
      rfl
    · obtain ⟨method, hmethod⟩ := generate_of_ready hready hfamily ⟨e.cache, []⟩
      cases hmethod.symm.trans (hmade.symm.trans herror)
  · exact (e.synthesize_of_not_ready c hready).2

/-- A member that is made has asked for what it is made from. -/
theorem synthesize_of_ok {member : Member} {method : Method}
    (hok : (e.synthesize member c).1 = .ok method) :
    (e.check c member.family).isReady = true ∧
      (e.synthesize member c).2.1 =
        { e with cache := (member.requests c).foldl Cache.serve e.cache } := by
  by_cases hready : (e.check c member.family).isReady = true
  · exact ⟨hready, (e.synthesize_of_ready c hready).2⟩
  · obtain ⟨refusal, hrefusal⟩ := (e.synthesize_of_not_ready c hready).1
    cases hrefusal.symm.trans hok

theorem synthesizeClass_snd :
    (e.synthesizeClass c).2.1 =
      { e with
        cache := (readyRequests e.strictness c .equality ++
          readyRequests e.strictness c .printing).foldl Cache.serve e.cache } := by
  have hall : Family.all.flatMap (readyRequests e.strictness c) =
      readyRequests e.strictness c .equality ++ readyRequests e.strictness c .printing := by
    simp [Family.all, readyRequests_building]
  apply run_of_asks
  rw [← hall]
  exact (Asks.foldlM (synthesizeFamily_asks e.strictness c) Family.all _).bind_silent fun _ =>
    (Asks.note _).bind fun _ => .pure _

/-- The cache is asked once for each member of equality or printing that is made, and for nothing
else. -/
theorem asked_perform (e : Engine) (c : ClassDecl) :
    (∀ op ∈ [.validate c, .names c, .builderPlan c], e.perform op = e) ∧
    (∀ member refusal, (e.synthesize member c).1 = .error refusal →
      (e.synthesize member c).2.1 = e) ∧
    (∀ member method, (e.synthesize member c).1 = .ok method →
      let e' := (e.synthesize member c).2.1
      (member.family = .building → e' = e) ∧
      (member.family ≠ .building →
        e' = { e with cache := e.cache.serve (.resolve c member.family) } ∧
        e'.cache.asked = e.cache.asked + 1)) ∧
    let equality := if (e.check c .equality).isReady then
      [Request.resolve c .equality, .resolve c .equality] else []
    let printing := if (e.check c .printing).isReady then [Request.resolve c .printing] else []
    let e' := (e.synthesizeClass c).2.1
    e' = { e with cache := (equality ++ printing).foldl Cache.serve e.cache } ∧
    e'.cache.asked = e.cache.asked + (equality ++ printing).length ∧
    ((e.check c .equality).isReady = true →
      let first := e.cache.serve (.resolve c .equality)
      first.serve (.resolve c .equality) = { first with hits := first.hits + 1 }) := by
  refine ⟨?_, fun _ _ => e.synthesize_of_error c, ?_, ?_⟩
  · intro op hop
    simp only [List.mem_cons, List.not_mem_nil, or_false] at hop
    rcases hop with rfl | rfl | rfl <;> rfl
  · intro member method hok e'
    obtain ⟨hready, hengine⟩ := e.synthesize_of_ok c hok
    constructor
    · intro hfamily
      rw [member.requests_of_building c hfamily] at hengine
      exact hengine
    · intro hfamily
      obtain ⟨policy, hpolicy⟩ := exists_policy_of_ready hready hfamily
      rw [member.requests_of_ne_building c hfamily] at hengine
      refine ⟨hengine, ?_⟩
      change (e.synthesize member c).2.1.cache.asked = _
      rw [hengine]
      exact Cache.asked_serve hpolicy e.cache
  · intro equality printing e'
    have hengine : e' = { e with cache := (equality ++ printing).foldl Cache.serve e.cache } :=
      e.synthesizeClass_snd c
    refine ⟨hengine, ?_, ?_⟩
    · rw [hengine]
      refine Cache.asked_foldl_serve ?_ e.cache
      intro request hrequest
      obtain ⟨family, hrequest⟩ : ∃ family, request ∈ readyRequests e.strictness c family := by
        rcases List.mem_append.mp hrequest with hrequest | hrequest
        · exact ⟨.equality, hrequest⟩
        · exact ⟨.printing, hrequest⟩
      exact exists_policy_of_mem_readyRequests hrequest
    · intro hready
      obtain ⟨policy, hpolicy⟩ := exists_policy_of_ready hready (by decide)
      exact Cache.serve_serve hpolicy e.cache

end Engine

end Memberwise
