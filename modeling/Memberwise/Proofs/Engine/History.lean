import Mathlib.Data.List.Induction
import Memberwise.Proofs.Engine.Answers

/-!
# Histories

A history lists what was asked of an engine, or of a cache by itself, since it was new. One name
may stand for different declarations in it. Each request leaves the cache sound, and a sound cache
gives no answer that it would not compute again.
-/

namespace Memberwise

namespace Cache

inductive Request
  | resolve (c : ClassDecl) (family : Family)
  | clear

def serve (cache : Cache) : Request → Cache
  | .resolve c family => (cache.resolve c family).2.1
  | .clear => empty

def after (history : List Request) : Cache := history.foldl serve empty

theorem after_concat (history : List Request) (request : Request) :
    after (history ++ [request]) = (after history).serve request := by
  rw [after, List.foldl_append]
  rfl

theorem Sound.serve {cache : Cache} (hc : cache.Sound) (request : Request) :
    (cache.serve request).Sound := by
  cases request with
  | resolve c family => exact hc.resolve_snd c family
  | clear => exact sound_empty

theorem sound_after (history : List Request) : (after history).Sound := by
  induction history using List.reverseRecOn with
  | nil => exact sound_empty
  | append_singleton history request ih =>
    rw [after_concat]
    exact ih.serve request

end Cache

namespace Engine

inductive Operation
  | synthesize (member : Member) (c : ClassDecl)
  | synthesizeClass (c : ClassDecl)
  | names (c : ClassDecl)
  | validate (c : ClassDecl)
  | builderPlan (c : ClassDecl)
  | clear

/-- The engine after an operation. Names, diagnostics and plans are told without the cache. -/
def perform (e : Engine) : Operation → Engine
  | .synthesize member c => (e.synthesize member c).2.1
  | .synthesizeClass c => (e.synthesizeClass c).2.1
  | .names _ | .validate _ | .builderPlan _ => e
  | .clear => e.clear

def after (settings : Settings) (history : List Operation) : Engine :=
  history.foldl perform (.new settings)

theorem after_concat (settings : Settings) (history : List Operation) (op : Operation) :
    after settings (history ++ [op]) = (after settings history).perform op := by
  rw [after, List.foldl_append]
  rfl

theorem Reachable.perform {e : Engine} (he : e.Reachable) (op : Operation) :
    (e.perform op).Reachable := by
  cases op with
  | synthesize member c => exact he.synthesize member c
  | synthesizeClass c => exact he.synthesizeClass c
  | names _ | validate _ | builderPlan _ => exact he
  | clear => exact he.clear

theorem settings_perform (e : Engine) (op : Operation) : (e.perform op).settings = e.settings := by
  cases op with
  | synthesize member c =>
    unfold Engine.perform Engine.synthesize
    dsimp only
    split <;> rfl
  | synthesizeClass _ | names _ | validate _ | builderPlan _ | clear => rfl

theorem reachable_after (settings : Settings) (history : List Operation) :
    (after settings history).Reachable := by
  induction history using List.reverseRecOn with
  | nil => exact .new settings
  | append_singleton history op ih =>
    rw [after_concat]
    exact ih.perform op

theorem settings_after (settings : Settings) (history : List Operation) :
    (after settings history).settings = settings := by
  induction history using List.reverseRecOn with
  | nil => rfl
  | append_singleton history op ih => rw [after_concat, settings_perform, ih]

theorem strictness_after (settings : Settings) (history : List Operation) :
    (after settings history).strictness = settings.strictness := by
  rw [Engine.strictness, settings_after]

/-- No history shows in a later answer, neither of an engine nor of a cache. -/
theorem after_transparent (settings : Settings) (history : List Operation)
    (requests : List Cache.Request) (c : ClassDecl) :
    (∀ member, ((after settings history).synthesize member c).1 =
        ((new settings).synthesize member c).1) ∧
      ((after settings history).synthesizeClass c).1 = ((new settings).synthesizeClass c).1 ∧
      ∀ family, ((Cache.after requests).resolve c family).1 =
        (InclusionPolicy.ofClass? c family).map (Resolution.compute c.properties) := by
  have hafter := reachable_after settings history
  have hnew := Reachable.new settings
  have hstrictness : (after settings history).strictness = (new settings).strictness :=
    strictness_after settings history
  refine ⟨?_, ?_, ?_⟩
  · intro member
    rw [hafter.synthesize_fst, hnew.synthesize_fst, hstrictness]
  · rw [hafter.synthesizeClass_fst, hnew.synthesizeClass_fst, hstrictness]
  · intro family
    exact (Cache.sound_after requests).resolve_fst c family

end Engine

end Memberwise
