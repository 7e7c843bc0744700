import MqttBridge.Families

/-!
# Announcing the unit of a metric family

`FormatHeaders` writes the unit of a family when it is told that the unit is new, and `DoGet`
tells it so when unit or help text differ from those of the sample before. That sample belongs to
whatever family was visited before, so a family that follows one with the same unit and the same
help text has its header block written without its unit.
-/

namespace MqttBridge

/-- Samples of one name agree in type, unit and help. -/
def FamiliesAgree (samples : List MetricData) : Prop :=
  ∀ data₁ ∈ samples, ∀ data₂ ∈ samples, data₁.name = data₂.name →
    data₁.metricType = data₂.metricType ∧ data₁.metricUnit = data₂.metricUnit ∧
      data₁.help = data₂.help

instance (samples : List MetricData) : Decidable (FamiliesAgree samples) :=
  inferInstanceAs (Decidable (∀ data₁ ∈ samples, ∀ data₂ ∈ samples, _ → _))

/-- Every family with a unit announces it: whatever text functions are called, the body a GET makes
of the samples before the first one of a name is followed by that sample's header block, formatted
with the unit flag set, if its unit is not `None`. -/
def UnitsAnnounced (handler : PrometheusWebHandler) (samples : List MetricData) : Prop :=
  ∀ before data after, samples = before ++ data :: after →
    data.name ∉ before.map MetricData.name → data.metricUnit ≠ .none →
      ∀ platform : WebPlatform, ∃ rest,
        (handler.doGet platform samples).1.body =
          (handler.doGet platform before).1.body ++
            (platform.formatHeaders data true ++ (platform.format data ++ rest))

/-- The first sample of a name has its header block, with the flag its predecessor decides. -/
theorem page_first_of_name (platform : WebPlatform) (before : List MetricData) (data : MetricData)
    (after : List MetricData) (hfirst : data.name ∉ before.map MetricData.name) :
    page platform none (before ++ data :: after) =
      page platform none before ++ (platform.formatHeaders data (newUnit before.getLast? data) ++
        (platform.format data ++ page platform (some data) after)) := by
  have hheader : before.getLast?.map MetricData.headerKey ≠ some data.headerKey := by
    intro hsame
    obtain ⟨previous, hlast, hkey⟩ := Option.map_eq_some_iff.mp hsame
    have hname : previous.name = data.name := congrArg HeaderKey.name hkey
    exact hfirst (List.mem_map.mpr ⟨previous, List.mem_of_getLast? hlast, hname⟩)
  rw [page_append_cons, if_neg hheader]

/-- A page determines the flag of a header block when the blocks tell it. -/
theorem flag_of_page (before : List MetricData) (data : MetricData) (after : List MetricData)
    (hfirst : data.name ∉ before.map MetricData.name)
    (h : ∀ platform : WebPlatform, ∃ rest, page platform none (before ++ data :: after) =
      page platform none before ++
        (platform.formatHeaders data true ++ (platform.format data ++ rest))) :
    newUnit before.getLast? data = true := by
  obtain ⟨rest, hrest⟩ := h ⟨fun _ flag => [if flag then 1 else 0], fun _ => []⟩
  rw [page_first_of_name _ before data after hfirst] at hrest
  have hblock := congrArg List.head? (List.append_cancel_left hrest)
  simpa using hblock

/-- The flag is set for a first sample with a unit unless the sample before it has the same unit and
help text. -/
theorem newUnit_eq_true (previous : Option MetricData) (data : MetricData)
    (hunit : data.metricUnit ≠ .none) :
    newUnit previous data = true ↔ ∀ before, previous = some before →
      before.metricUnit ≠ data.metricUnit ∨ before.help ≠ data.help := by
  cases previous with
  | none =>
    have hne : ¬MetricUnit.none = data.metricUnit := fun he => hunit he.symm
    simp [newUnit, LastSeen.of, hne]
  | some before => simp [newUnit, LastSeen.of]

section Announcing

variable {handler : PrometheusWebHandler} {samples : List MetricData}

/-- The condition for announced units: no family with a unit is visited right after another family
with the same unit and the same help text. -/
def UnitsDiffer (samples : List MetricData) : Prop :=
  samples.IsChain fun previous data => previous.name ≠ data.name → data.metricUnit ≠ .none →
    previous.metricUnit ≠ data.metricUnit ∨ previous.help ≠ data.help

instance (samples : List MetricData) : Decidable (UnitsDiffer samples) :=
  inferInstanceAs (Decidable (samples.IsChain fun _ _ => _ → _ → _))

/-- Announced units need the condition: a grouped family starts where the name changes. -/
theorem UnitsAnnounced.differ (h : UnitsAnnounced handler samples)
    (hcache : handler.metricCache = true) (hgrouped : Contiguous MetricData.name samples) :
    UnitsDiffer samples := by
  refine List.isChain_iff_forall_rel_of_append_cons_cons.mpr ?_
  intro previous data before after hsamples hname hunit
  have hsplit : samples = (before ++ [previous]) ++ data :: after := by simp [hsamples]
  have hfirst : data.name ∉ (before ++ [previous]).map MetricData.name :=
    (hsamples ▸ hgrouped).notMem_of_change hname
  have hflag : newUnit (before ++ [previous]).getLast? data = true := by
    apply flag_of_page (before ++ [previous]) data after hfirst
    intro platform
    obtain ⟨rest, hrest⟩ := h (before ++ [previous]) data after hsplit hfirst hunit platform
    rw [handler.body_doGet, handler.body_doGet, if_pos hcache, if_pos hcache, hsplit] at hrest
    exact ⟨rest, hrest⟩
  exact (newUnit_eq_true _ data hunit).mp hflag previous (by simp)

/-- The condition is enough: the first sample of a name is the first of all, or comes right after
another family. -/
theorem UnitsDiffer.announced (h : UnitsDiffer samples) (hcache : handler.metricCache = true) :
    UnitsAnnounced handler samples := by
  intro before data after hsamples hfirst hunit platform
  have hflag : newUnit before.getLast? data = true := by
    rw [newUnit_eq_true _ data hunit]
    intro previous hlast
    obtain ⟨front, rfl⟩ := List.getLast?_eq_some_iff.mp hlast
    have hsplit : samples = front ++ previous :: data :: after := by simp [hsamples]
    refine List.isChain_iff_forall_rel_of_append_cons_cons.mp h hsplit
      (fun he => hfirst ?_) hunit
    exact List.mem_map.mpr ⟨previous, by simp, he⟩
  refine ⟨page platform (some data) after, ?_⟩
  rw [handler.body_doGet, handler.body_doGet, if_pos hcache, if_pos hcache, hsamples,
    page_first_of_name platform before data after hfirst, hflag]

end Announcing

/-- For samples grouped by name, every family with a unit announces it exactly when none of them is
visited right after another family with the same unit and the same help text. -/
theorem unitsAnnounced_iff (handler : PrometheusWebHandler) (hcache : handler.metricCache = true)
    (samples : List MetricData) (hgrouped : Contiguous MetricData.name samples) :
    UnitsAnnounced handler samples ↔ UnitsDiffer samples :=
  ⟨fun h => h.differ hcache hgrouped, fun h => h.announced hcache⟩

/-- Two metrics with units, for two handlers on two topics. -/
def BridgeConfig.twoUnits (unit₁ unit₂ : String) : BridgeConfig where
  defaultTimestamp := .on
  metrics := some
    [{ metric := "Inside", type := some "gauge", unit := some unit₁,
       handlers := [{ handlerId := "a", property := some "t" }] },
     { metric := "Outside", type := some "gauge", unit := some unit₂,
       handlers := [{ handlerId := "b", property := some "t" }] }]
  handlers := some [{ id := "a", type := "value" }, { id := "b", type := "value" }]
  topics :=
    [{ handlers := some ["a"], subscriptions := ["home/a"] },
     { handlers := some ["b"], subscriptions := ["home/b"] }]

/-- The client of the two metrics, with an automaton for filters without wildcards. -/
def BridgeConfig.twoUnitsClient (unit₁ unit₂ : String) : MqttClient :=
  (twoUnits unit₁ unit₂).client .reference
    (.keeping (· == ·) ((twoUnits unit₁ unit₂).routes .reference).added
      (Topics.firstAdded ((twoUnits unit₁ unit₂).routes .reference).added)) true

/-- The records of a message on each of the two topics. -/
def BridgeConfig.twoUnitsSamples (unit₁ unit₂ : String) : List MetricData :=
  ((twoUnitsClient unit₁ unit₂).run .reference
    [⟨"home/a", "20.5", 1⟩, ⟨"home/b", "21.5", 2⟩]).2.reduceOption.flatten

/-- The records are cached samples. -/
theorem BridgeConfig.cached_twoUnitsSamples (unit₁ unit₂ : String) :
    (twoUnitsClient unit₁ unit₂).Cached .reference
      [⟨"home/a", "20.5", 1⟩, ⟨"home/b", "21.5", 2⟩] (twoUnitsSamples unit₁ unit₂) := by
  intro data hdata
  obtain ⟨batch, hbatch, hmem⟩ := List.mem_flatten.mp hdata
  exact ⟨batch, List.reduceOption_mem_iff.mp hbatch, hmem⟩

/-- A family with a unit after one without is announced. -/
theorem unitsAnnounced_iff_celsius :
    UnitsAnnounced ⟨true, [], []⟩ (BridgeConfig.twoUnitsSamples "" "celsius") :=
  (unitsAnnounced_iff ⟨true, [], []⟩ rfl _ (.of_nodup (by decide))).mpr (by decide)

/-- Two families in degrees Celsius: samples of both are cached together, and a scrape that visits
them formats the header block of the second one without the unit flag. -/
theorem unit_missing_twoUnits :
    ∃ samples, (BridgeConfig.twoUnitsClient "celsius" "celsius").Cached .reference
        [⟨"home/a", "20.5", 1⟩, ⟨"home/b", "21.5", 2⟩] samples ∧
      Contiguous MetricData.name samples ∧ FamiliesAgree samples ∧
      ¬UnitsAnnounced ⟨true, [], []⟩ samples := by
  have hgrouped : Contiguous MetricData.name
      (BridgeConfig.twoUnitsSamples "celsius" "celsius") := .of_nodup (by decide)
  refine ⟨BridgeConfig.twoUnitsSamples "celsius" "celsius",
    BridgeConfig.cached_twoUnitsSamples "celsius" "celsius", hgrouped, by decide, fun h => ?_⟩
  exact absurd (h.differ rfl hgrouped) (by decide)

end MqttBridge
