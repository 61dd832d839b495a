import MipitCore.Foundation.CachedReads
import MipitCore.Translation.Mapping

/-!
# The loaders of rules and mappings

The routing rules, and the mappings of a rail and direction, are read from their tables and kept for
five minutes, or until `clearCache`. A load looks at what is kept, waits for the repository, and keeps
what it is handed, whatever has happened in between; so a load that was under way when the cache was
cleared fills it again with what it had read before.

## Main definitions

* `ruleLoader`, `mappingLoader` — `RuleLoader` and `MappingLoader`, as reads that are kept

## Main results

* `loaders_iff` — when the loads of either are answered as is promised
-/

namespace MipitCore.Service

open Js Foundation Translation

/-- A row of `route_rules`. -/
structure RouteRule where
  ruleName : Text
  conditionField : Text
  conditionValue : Text
  destinationRail : Text
  priority : Number

/-- `TTL_MS` -/
def TTL_MS : ℕ := 5 * 60 * 1000

/-- `loadMappings` keeps its entries under `` `${rail}:${direction}` ``. -/
def cacheKey (rail direction : Text) : Text := rail ++ js ":" ++ direction

section

variable {Tables : Type}

/-- `RuleLoader`, given how the repository reads the active rules. -/
def ruleLoader (findActive : Tables → List RouteRule) :
    CachedReads Unit Unit Tables (List RouteRule) where
  key := id
  read tables _ := findActive tables
  ttl := TTL_MS

/-- `MappingLoader`, given how the repository reads the rows of a rail and direction. -/
def mappingLoader (findByRail : Tables → Text → Text → List MappingEntry) :
    CachedReads (Text × Text) Text Tables Mappings where
  key request := cacheKey request.1 request.2
  read tables request := loadMappings (findByRail tables request.1 request.2)
  ttl := TTL_MS

/-- **Loads are answered as is promised, at any time of a run**, exactly if no read arrives after
the cache has been cleared since, or after a newer version has been returned. -/
theorem loaders_iff {findActive : Tables → List RouteRule}
    {findByRail : Tables → Text → Text → List MappingEntry}
    {rules rules' : LoaderState Unit Unit Tables (List RouteRule)}
    {mappings mappings' : LoaderState (Text × Text) Text Tables Mappings}
    {path : List (Transition (LoaderState Unit Unit Tables (List RouteRule))
      (LoadEvent Unit Tables (List RouteRule)))}
    {path' : List (Transition (LoaderState (Text × Text) Text Tables Mappings)
      (LoadEvent (Text × Text) Tables Mappings))}
    (hrules : CachedReads.New rules)
    (hpath : (ruleLoader findActive).Step.Run rules path rules')
    (hmappings : CachedReads.New mappings)
    (hpath' : (mappingLoader findByRail).Step.Run mappings path' mappings') :
    ((∀ e ∈ path, (ruleLoader findActive).AlwaysHonest e) ↔
        ∀ e ∈ path, (ruleLoader findActive).Timely e.source e.label) ∧
      ((∀ e ∈ path', (mappingLoader findByRail).AlwaysHonest e) ↔
        ∀ e ∈ path', (mappingLoader findByRail).Timely e.source e.label) := by
  have httl : 0 < TTL_MS := by decide
  exact ⟨CachedReads.alwaysHonest_iff httl hrules hpath,
    CachedReads.alwaysHonest_iff httl hmappings hpath'⟩

end

/-! ### A load under way when the cache is cleared -/

namespace Example

section

universe u v w x

variable {ρ : Type u} {κ : Type v} {τ : Type w} {δ : Type x} [DecidableEq κ]

/-- A loader that has not been called. -/
def uncalled (source : τ) : LoaderState ρ κ τ δ := ⟨source, 0, 0, fun _ => none, [], [], []⟩

omit [DecidableEq κ] in
theorem new_uncalled (source : τ) : CachedReads.New (uncalled source : LoaderState ρ κ τ δ) :=
  ⟨fun _ => rfl, rfl, rfl, rfl⟩

/-- A load that is handed what it reads; a change of the tables and a clearing of the cache; a load
that reads them again, and another one that finds that. -/
theorem exists_timely (L : CachedReads ρ κ τ δ) (httl : 0 < L.ttl) (source source' : τ)
    (request : ρ) :
    ∃ path t, L.Step.Run (uncalled source) path t ∧ t.cleared ≠ [] ∧ t.version = 1 ∧
      ∀ e ∈ path, L.Timely e.source e.label := by
  refine ⟨_, _, .cons (@CachedReads.Step.miss _ _ _ _ _ L _ request 0 (by simp [uncalled]))
    (.cons (.read List.mem_cons_self rfl) (.cons (@CachedReads.Step.arrive _ _ _ _ _ L _ _ _ 0
      List.mem_cons_self rfl) (.cons (@CachedReads.Step.change _ _ _ _ _ L _ source') (.cons .clear
      (.cons (@CachedReads.Step.miss _ _ _ _ _ L _ request 0 (by simp))
        (.cons (.read List.mem_cons_self rfl) (.cons (@CachedReads.Step.arrive _ _ _ _ _ L _ _ _ 0
          List.mem_cons_self rfl) (.cons (@CachedReads.Step.hit _ _ _ _ _ L _ request 0 _
            (Function.update_self _ _ _) (by simpa using httl)) .nil)))))))), ?_, ?_, ?_⟩
  · simp
  · simp [uncalled]
  · simp [CachedReads.Timely, uncalled]

/-- A load, the cache being cleared before what it has read arrives, and another load. -/
theorem exists_overtaken (L : CachedReads ρ κ τ δ) (httl : 0 < L.ttl) (source : τ) (request : ρ) :
    ∃ path t, L.Step.Run (uncalled source) path t ∧ ¬ L.Honest t := by
  refine ⟨_, _, .cons (@CachedReads.Step.miss _ _ _ _ _ L _ request 0 (by simp [uncalled]))
    (.cons (.read List.mem_cons_self rfl) (.cons .clear
      (.cons (@CachedReads.Step.arrive _ _ _ _ _ L _ _ _ 0 List.mem_cons_self rfl)
        (.cons (@CachedReads.Step.hit _ _ _ _ _ L _ request 0 _ (Function.update_self _ _ _)
          (by simpa using httl)) .nil)))), fun h => ?_⟩
  have hclear := h.afterClear _ List.mem_cons_self _ List.mem_cons_self
  simp [uncalled] at hclear

end

/-- The two tables. -/
structure Tables where
  rules : List RouteRule
  mappings : List MappingEntry

/-- A rule and a mapping that are added. -/
def toSpei : RouteRule := ⟨js "any", js "availability", js "always", js "SPEI", .fin 1⟩

def keyMapping : MappingEntry := ⟨"creditor.alias", "alias.value", "strip_pix_prefix", none, true⟩

/-- The rules are all there are. -/
def rules : CachedReads Unit Unit Tables (List RouteRule) := ruleLoader Tables.rules

/-- And so are the mappings. -/
def mappings : CachedReads (Text × Text) Text Tables Mappings :=
  mappingLoader fun tables _ _ => tables.mappings

end Example

theorem loaders_iff_timely :
    ∃ path t path' t',
      Example.rules.Step.Run (Example.uncalled ⟨[], []⟩) path t ∧
      t.cleared ≠ [] ∧ t.version = 1 ∧
      Example.mappings.Step.Run (Example.uncalled ⟨[], []⟩) path' t' ∧
      t'.cleared ≠ [] ∧ t'.version = 1 ∧
      (∀ e ∈ path, Example.rules.AlwaysHonest e) ∧
      ∀ e ∈ path', Example.mappings.AlwaysHonest e := by
  obtain ⟨path, t, hrun, hcleared, hversion, htimely⟩ := Example.exists_timely Example.rules
    (by decide) ⟨[], []⟩ ⟨[Example.toSpei], []⟩ ()
  obtain ⟨path', t', hrun', hcleared', hversion', htimely'⟩ := Example.exists_timely
    Example.mappings (by decide) ⟨[], []⟩ ⟨[], [Example.keyMapping]⟩ (js "PIX", js "TO_CANONICAL")
  obtain ⟨hrules, hmappings⟩ := loaders_iff (Example.new_uncalled _) hrun
    (Example.new_uncalled _) hrun'
  exact ⟨path, t, path', t', hrun, hcleared, hversion, hrun', hcleared', hversion',
    hrules.mpr htimely, hmappings.mpr htimely'⟩

/-- The rules that were read before the cache was cleared are returned to a load after that. -/
theorem stale_after_clear :
    ∃ path t, Example.rules.Step.Run (Example.uncalled ⟨[], []⟩) path t ∧ ¬ Example.rules.Honest t :=
  Example.exists_overtaken Example.rules (by decide) ⟨[], []⟩ ()

end MipitCore.Service
