import Memberwise.Engine.Event
import Memberwise.Inclusion
import Memberwise.Table

/-!
# Cached resolutions

Resolutions are kept by class name and family, together with the policy and the properties that
they were computed from. An entry answers for exactly these inputs; other inputs under the same
key replace it.
-/

namespace Memberwise

structure CacheSlot where
  policy : InclusionPolicy
  properties : List Property
  resolution : Resolution
deriving DecidableEq, Repr

namespace CacheSlot

def compute (policy : InclusionPolicy) (properties : List Property) : CacheSlot :=
  ⟨policy, properties, .compute properties policy⟩

def answersFor (slot : CacheSlot) (policy : InclusionPolicy) (properties : List Property) : Bool :=
  slot.policy = policy && slot.properties = properties

end CacheSlot

structure Cache where
  slots : Table (ClassName × Family) CacheSlot
  hits : Nat
  misses : Nat
  /-- Entries replaced because the class had changed under its name. -/
  stale : Nat

namespace Cache

def empty : Cache := ⟨∅, 0, 0, 0⟩

instance : Inhabited Cache := ⟨empty⟩

def size (cache : Cache) : Nat := cache.slots.size

/-- Computes and keeps the resolution; `stale` counts the entries that it replaces. -/
def store (cache : Cache) (c : ClassDecl) (policy : InclusionPolicy) (stale : Nat) :
    Resolution × Cache :=
  let slot := CacheSlot.compute policy c.properties
  (slot.resolution,
    { cache with
      slots := cache.slots.insert (c.name, policy.family) slot,
      misses := cache.misses + 1,
      stale := cache.stale + stale })

def resolvedEvent (c : ClassDecl) (policy : InclusionPolicy) (r : Resolution) : Event :=
  .resolved policy.family c.name r.participants.length

def lookup (cache : Cache) (c : ClassDecl) (policy : InclusionPolicy) :
    Resolution × Cache × List Event :=
  match cache.slots.get? (c.name, policy.family) with
  | none =>
    let (r, cache) := cache.store c policy 0
    (r, cache, [resolvedEvent c policy r])
  | some slot =>
    if slot.answersFor policy c.properties then
      (slot.resolution, { cache with hits := cache.hits + 1 }, [.cacheHit policy.family c.name])
    else
      let (r, cache) := cache.store c policy 1
      (r, cache, [.staleDropped policy.family c.name, resolvedEvent c policy r])

def resolve (cache : Cache) (c : ClassDecl) (family : Family) :
    Option Resolution × Cache × List Event :=
  match InclusionPolicy.ofClass? c family with
  | none => (none, cache, [])
  | some policy =>
    let (r, cache, events) := cache.lookup c policy
    (some r, cache, events)

end Cache

end Memberwise
