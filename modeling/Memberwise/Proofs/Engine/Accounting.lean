import Mathlib.Data.Finset.Card
import Mathlib.Data.List.DropRight
import Memberwise.Proofs.Engine.History
import Memberwise.Proofs.Engine.Independence

/-!
# What a cache counts

The lookups since a cache was last cleared determine all that it counts and keeps. Its slot under a
key holds what the latest lookup of this key asked for, so a lookup is answered from the cache
exactly where it repeats the one before it, and it drops an entry exactly where it differs from it.
Each answer is counted and reported once.
-/

namespace Memberwise

namespace Event

open Text (inQuotes)

def opens (words : String) (e : Event) : Bool := words.toList.isPrefixOf e.text.toList

theorem opens_eq {e : Event} {lead rest : String} (htext : e.text = lead ++ rest)
    (words : String) : e.opens words = words.toList.isPrefixOf (lead.toList ++ rest.toList) := by
  rw [opens, htext, String.toList_append]

variable (family : Family) (cls : ClassName)

theorem opens_cacheHit :
    (cacheHit family cls).opens "resolution cache hit" = true ∧
      (cacheHit family cls).opens "resolved" = false ∧
      (cacheHit family cls).opens "dropping stale" = false := by
  have htext : (cacheHit family cls).text =
      "resolution cache hit for " ++ family.name ++ " on " ++ inQuotes cls.path := rfl
  simp only [String.append_assoc] at htext
  exact ⟨opens_eq htext _, opens_eq htext _, opens_eq htext _⟩

theorem opens_staleDropped :
    (staleDropped family cls).opens "resolution cache hit" = false ∧
      (staleDropped family cls).opens "resolved" = false ∧
      (staleDropped family cls).opens "dropping stale" = true := by
  have htext : (staleDropped family cls).text =
      "dropping stale " ++ family.name ++ " resolution for " ++ inQuotes cls.path := rfl
  simp only [String.append_assoc] at htext
  exact ⟨opens_eq htext _, opens_eq htext _, opens_eq htext _⟩

theorem opens_resolved (participants : Nat) :
    (resolved family cls participants).opens "resolution cache hit" = false ∧
      (resolved family cls participants).opens "resolved" = true ∧
      (resolved family cls participants).opens "dropping stale" = false := by
  have htext : (resolved family cls participants).text =
      "resolved " ++ family.name ++ " for " ++ inQuotes cls.path ++ ": " ++
        toString participants ++ " properties" := rfl
  simp only [String.append_assoc] at htext
  exact ⟨opens_eq htext _, opens_eq htext _, opens_eq htext _⟩

end Event

namespace Cache

section Answers

variable {cache : Cache} {c : ClassDecl} {policy : InclusionPolicy}

theorem lookup_of_none (hnone : cache.slots.get? (c.name, policy.family) = none) :
    (cache.lookup c policy).2 =
      ((cache.store c policy 0).2, [resolvedEvent c policy (cache.store c policy 0).1]) := by
  rw [lookup, hnone]

variable {slot : CacheSlot} (hslot : cache.slots.get? (c.name, policy.family) = some slot)

include hslot

theorem lookup_of_answersFor (hanswers : slot.answersFor policy c.properties = true) :
    (cache.lookup c policy).2 =
      ({ cache with hits := cache.hits + 1 }, [.cacheHit policy.family c.name]) := by
  rw [lookup, hslot]
  dsimp only
  rw [if_pos hanswers]

theorem lookup_of_not_answersFor (hanswers : slot.answersFor policy c.properties = false) :
    (cache.lookup c policy).2 =
      ((cache.store c policy 1).2, [.staleDropped policy.family c.name,
        resolvedEvent c policy (cache.store c policy 1).1]) := by
  rw [lookup, hslot]
  dsimp only
  rw [if_neg (by simp [hanswers])]

end Answers

/-- What a call brings that asks for a resolution and has a policy for it. -/
structure Lookup where
  name : ClassName
  policy : InclusionPolicy
  properties : List Property

namespace Lookup

def key (l : Lookup) : ClassName × Family := (l.name, l.policy.family)

def slot (l : Lookup) : CacheSlot := .compute l.policy l.properties

def asks (l other : Lookup) : Bool := l.policy = other.policy && l.properties = other.properties

theorem slot_eq_of_asks {l other : Lookup} (h : l.asks other = true) : l.slot = other.slot := by
  obtain ⟨hpolicy, hproperties⟩ : l.policy = other.policy ∧ l.properties = other.properties := by
    simpa [asks] using h
  rw [slot, slot, hpolicy, hproperties]

end Lookup

namespace Request

def isClear : Request → Bool
  | resolve _ _ => false
  | clear => true

def lookup? : Request → Option Lookup
  | resolve c family =>
    (InclusionPolicy.ofClass? c family).map fun policy => ⟨c.name, policy, c.properties⟩
  | clear => none

end Request

/-- The lookups since the last `clear`, in their order. -/
def lookups (history : List Request) : List Lookup :=
  (history.rtakeWhile (!·.isClear)).filterMap Request.lookup?

theorem lookups_concat_resolve (history : List Request) (c : ClassDecl) (family : Family) :
    lookups (history ++ [.resolve c family]) =
      lookups history ++ (Request.resolve c family).lookup?.toList := by
  rw [lookups, List.rtakeWhile_concat, if_pos (by rfl), List.filterMap_append]
  cases h : (Request.resolve c family).lookup? <;> simp [h, lookups]

theorem lookups_concat_clear (history : List Request) : lookups (history ++ [.clear]) = [] := by
  rw [lookups, List.rtakeWhile_concat, if_neg (by simp [Request.isClear])]
  rfl

def latest? (calls : List Lookup) (key : ClassName × Family) : Option Lookup :=
  calls.reverse.find? (·.key = key)

theorem latest?_concat (calls : List Lookup) (l : Lookup) (key : ClassName × Family) :
    latest? (calls ++ [l]) key = if l.key = key then some l else latest? calls key := by
  rw [latest?, List.reverse_append, List.reverse_singleton, List.singleton_append, List.find?_cons]
  split <;> simp_all [latest?]

theorem latest?_eq_none_iff {calls : List Lookup} {key : ClassName × Family} :
    latest? calls key = none ↔ key ∉ calls.map Lookup.key := by
  simp [latest?]

/-- The lookup asks for what the latest one of its key has asked for. -/
def repeats (calls : List Lookup) (l : Lookup) : Bool := (latest? calls l.key).any (·.asks l)

def changes (calls : List Lookup) (l : Lookup) : Bool := (latest? calls l.key).any (!·.asks l)

/-- The slots hold what the latest lookups have asked for. -/
def Keeps (cache : Cache) (calls : List Lookup) : Prop :=
  ∀ key, cache.slots.get? key = (latest? calls key).map Lookup.slot

section Keeps

variable {cache : Cache} {calls : List Lookup} (h : cache.Keeps calls)

include h

theorem Keeps.size_eq : cache.size = (calls.map Lookup.key).toFinset.card := by
  have hkeys : cache.slots.keys.toFinset = (calls.map Lookup.key).toFinset := by
    ext key
    rw [List.mem_toFinset, List.mem_toFinset, Table.mem_keys_iff, ← Option.ne_none_iff_exists',
      h, ne_eq, Option.map_eq_none_iff, latest?_eq_none_iff, not_not]
  rw [← hkeys, Table.keys, List.toFinset_card_of_nodup cache.slots.nodup_keys, List.length_map]
  rfl

theorem Keeps.store (c : ClassDecl) (policy : InclusionPolicy) (stale : Nat) :
    (cache.store c policy stale).2.Keeps (calls ++ [⟨c.name, policy, c.properties⟩]) := by
  intro key
  change (cache.slots.insert _ _).get? key = _
  rw [Table.get?_insert, latest?_concat, h]
  change _ = Option.map _ (if (c.name, policy.family) = key then _ else _)
  split <;> rfl

/-- A lookup that asks for the same again finds in the slot what it would compute. -/
theorem Keeps.concat_of_asks {l last : Lookup} (hlast : latest? calls l.key = some last)
    (hasks : last.asks l = true) (hits : Nat) :
    Keeps { cache with hits := hits } (calls ++ [l]) := by
  intro key
  rw [latest?_concat]
  change cache.slots.get? key = _
  rw [h]
  split
  · rename_i hkey
    rw [← hkey, hlast]
    exact congrArg some (Lookup.slot_eq_of_asks hasks)
  · rfl

end Keeps

def reported (words : String) (events : List Event) : Nat := events.countP (·.opens words)

theorem reported_append (words : String) (events more : List Event) :
    reported words (events ++ more) = reported words events + reported words more :=
  List.countP_append

/-- What one lookup adds to the counts, and that it is reported likewise. -/
structure Adds (cache next : Cache) (events : List Event) (repeats changes : Bool) : Prop where
  hits : next.hits = cache.hits + repeats.toNat
  misses : next.misses = cache.misses + (!repeats).toNat
  stale : next.stale = cache.stale + changes.toNat
  hits_reported : reported "resolution cache hit" events = repeats.toNat
  misses_reported : reported "resolved" events = (!repeats).toNat
  stale_reported : reported "dropping stale" events = changes.toNat

theorem Keeps.lookup {cache : Cache} {calls : List Lookup} (h : cache.Keeps calls) (c : ClassDecl)
    (policy : InclusionPolicy) :
    let l : Lookup := ⟨c.name, policy, c.properties⟩
    (cache.lookup c policy).2.1.Keeps (calls ++ [l]) ∧
      Adds cache (cache.lookup c policy).2.1 (cache.lookup c policy).2.2 (repeats calls l)
        (changes calls l) := by
  intro l
  have hslot := h l.key
  unfold repeats changes
  cases hlatest : latest? calls l.key with
  | none =>
    rw [hlatest] at hslot
    rw [lookup_of_none hslot]
    refine ⟨h.store c policy 0, ⟨rfl, rfl, rfl, ?_, ?_, ?_⟩⟩ <;>
      simp [reported, resolvedEvent, Event.opens_resolved]
  | some last =>
    rw [hlatest] at hslot
    cases hasks : last.asks l with
    | true =>
      rw [lookup_of_answersFor hslot hasks]
      refine ⟨h.concat_of_asks hlatest hasks _, ?_⟩
      rw [Option.any_some, Option.any_some, hasks]
      refine ⟨rfl, rfl, rfl, ?_, ?_, ?_⟩ <;> simp [reported, Event.opens_cacheHit]
    | false =>
      rw [lookup_of_not_answersFor hslot hasks, Option.any_some, Option.any_some, hasks]
      refine ⟨h.store c policy 1, ⟨rfl, rfl, rfl, ?_, ?_, ?_⟩⟩ <;>
        simp [reported, resolvedEvent, Event.opens_resolved, Event.opens_staleDropped]

/-- The keys of the lookups, one for each that neither repeats nor changes another. -/
theorem card_keys_concat (calls : List Lookup) (l : Lookup) :
    ((calls ++ [l]).map Lookup.key).toFinset.card + (changes calls l).toNat =
      (calls.map Lookup.key).toFinset.card + (!repeats calls l).toNat := by
  have hkeys : ((calls ++ [l]).map Lookup.key).toFinset =
      insert l.key (calls.map Lookup.key).toFinset := by
    ext key
    simp
  unfold repeats changes
  rw [hkeys]
  cases hlatest : latest? calls l.key with
  | none =>
    rw [Finset.card_insert_of_notMem (mt List.mem_toFinset.mp (latest?_eq_none_iff.mp hlatest))]
    rfl
  | some last =>
    have hmem : l.key ∈ (calls.map Lookup.key).toFinset := by
      rw [List.mem_toFinset, ← not_not (a := _ ∈ _), ← latest?_eq_none_iff, hlatest]
      exact nofun
    rw [Finset.card_insert_of_mem hmem, Option.any_some, Option.any_some]

/-- The cache and its reports are what these lookups make of a new one. -/
structure Accounts (cache : Cache) (events : List Event) (calls : List Lookup) : Prop where
  keeps : cache.Keeps calls
  answered : cache.hits + cache.misses = calls.length
  kept : cache.misses = cache.size + cache.stale
  hits : cache.hits = reported "resolution cache hit" events
  misses : cache.misses = reported "resolved" events
  stale : cache.stale = reported "dropping stale" events

theorem accounts_empty : Accounts empty [] [] :=
  ⟨fun _ => rfl, rfl, rfl, rfl, rfl, rfl⟩

theorem Accounts.lookup {cache : Cache} {events : List Event} {calls : List Lookup}
    (h : Accounts cache events calls) (c : ClassDecl) (policy : InclusionPolicy) :
    Accounts (cache.lookup c policy).2.1 (events ++ (cache.lookup c policy).2.2)
      (calls ++ [⟨c.name, policy, c.properties⟩]) := by
  obtain ⟨hkeeps, hadds⟩ := h.keeps.lookup c policy
  refine ⟨hkeeps, ?_, ?_, ?_, ?_, ?_⟩
  · have hone (b : Bool) : b.toNat + (!b).toNat = 1 := by cases b <;> rfl
    have := hone (repeats calls ⟨c.name, policy, c.properties⟩)
    have := h.answered
    rw [hadds.hits, hadds.misses, List.length_append, List.length_singleton]
    omega
  · have hcard := card_keys_concat calls ⟨c.name, policy, c.properties⟩
    have := h.kept
    rw [← h.keeps.size_eq, ← hkeeps.size_eq] at hcard
    rw [hadds.misses, hadds.stale]
    omega
  · rw [reported_append, hadds.hits, hadds.hits_reported, h.hits]
  · rw [reported_append, hadds.misses, hadds.misses_reported, h.misses]
  · rw [reported_append, hadds.stale, hadds.stale_reported, h.stale]

def record (t : Trail) : Request → Trail
  | .resolve c family => (Tracked.resolve c family t).2
  | .clear => ⟨empty, []⟩

def recorded (history : List Request) : Trail := history.foldl record ⟨empty, []⟩

theorem recorded_concat (history : List Request) (request : Request) :
    recorded (history ++ [request]) = record (recorded history) request := by
  rw [recorded, List.foldl_append]
  rfl

theorem cache_recorded (history : List Request) : (recorded history).cache = after history := by
  induction history using List.reverseRecOn with
  | nil => rfl
  | append_singleton history request ih =>
    rw [recorded_concat, after_concat, ← ih]
    cases request <;> rfl

theorem accounts_recorded (history : List Request) :
    Accounts (recorded history).cache (recorded history).events (lookups history) := by
  induction history using List.reverseRecOn with
  | nil => exact accounts_empty
  | append_singleton history request ih =>
    rw [recorded_concat]
    cases request with
    | clear =>
      rw [lookups_concat_clear]
      exact accounts_empty
    | resolve c family =>
      rw [lookups_concat_resolve, record, Tracked.resolve, Cache.resolve, Request.lookup?]
      cases InclusionPolicy.ofClass? c family with
      | none => simpa using ih
      | some policy => exact ih.lookup c policy

/-- After every history, the counts since the last `clear`, the slots and the reports agree with
the lookups made; the last part says as what each further lookup is counted. -/
theorem after_accounts (history : List Request) :
    let cache := after history
    let calls := lookups history
    let records := fun words => reported words (recorded history).events
    cache.hits + cache.misses = calls.length ∧
    cache.size = (calls.map fun l => (l.name, l.policy.family)).toFinset.card ∧
    cache.misses = cache.size + cache.stale ∧
    (cache.hits = records "resolution cache hit" ∧ cache.misses = records "resolved" ∧
      cache.stale = records "dropping stale") ∧
    ∀ c family policy, InclusionPolicy.ofClass? c family = some policy →
      let next := after (history ++ [.resolve c family])
      let latest := calls.reverse.find? fun l => l.name = c.name ∧ l.policy.family = family
      let repeats := latest.any fun l => l.policy = policy ∧ l.properties = c.properties
      let changes := latest.any fun l => ¬ (l.policy = policy ∧ l.properties = c.properties)
      next.hits = cache.hits + repeats.toNat ∧ next.misses = cache.misses + (!repeats).toNat ∧
        next.stale = cache.stale + changes.toNat := by
  intro cache calls records
  have h := accounts_recorded history
  rw [cache_recorded] at h
  refine ⟨h.answered, h.keeps.size_eq, h.kept, ⟨h.hits, h.misses, h.stale⟩, ?_⟩
  intro c family policy hpolicy next latest repeats changes
  obtain rfl := InclusionPolicy.family_of_ofClass? hpolicy
  have hnext : next = (cache.lookup c policy).2.1 := by
    change after (history ++ [.resolve c policy.family]) = _
    rw [after_concat, serve, Cache.resolve, hpolicy]
  obtain ⟨-, hadds⟩ := h.keeps.lookup c policy
  have hlatest : latest = latest? calls (c.name, policy.family) := by
    simp [latest, latest?, Lookup.key]
  have hrepeats : repeats = Cache.repeats calls ⟨c.name, policy, c.properties⟩ := by
    simp [repeats, hlatest, Cache.repeats, Lookup.asks, Lookup.key]
  have hchanges : changes = Cache.changes calls ⟨c.name, policy, c.properties⟩ := by
    simp [changes, hlatest, Cache.changes, Lookup.asks, Lookup.key]
  rw [hnext, hrepeats, hchanges]
  exact ⟨hadds.hits, hadds.misses, hadds.stale⟩

/-- Two declarations take turns under one name, and the last one is asked for twice. -/
example :
    let plain := { ClassDecl.empty ⟨"Badge"⟩ .plain with
      annotations := { Annotations.none with printing := some default } }
    let full := plain.withProperty (.ofBody "code" .string)
    let cache := after [.resolve plain .printing, .resolve full .printing,
      .resolve plain .printing, .resolve plain .printing]
    cache.hits = 1 ∧ cache.misses = 3 ∧ cache.stale = 2 ∧ cache.size = 1 := by
  decide

end Cache

end Memberwise
