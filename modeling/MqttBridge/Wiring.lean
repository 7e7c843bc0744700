import Mathlib.Data.List.DropRight
import MqttBridge.Provenance
import MqttBridge.TrimmedNames

/-!
# What blanks around names change

A configuration and the same one with all names of its metrics and handlers sections trimmed give
the same metrics and handlers where the metrics' own property names have no blanks around them.
Elsewhere they can still be wired alike: a value handler takes its metrics under any name, and a
json handler's entry does no harm if its id is served by an earlier one.
-/

namespace MqttBridge

namespace BridgeConfig

variable (platform : ConfigPlatform) (config : BridgeConfig)

/-- A configuration with the names of its metrics and handlers sections trimmed. -/
def trimmed : BridgeConfig :=
  { config with
    metrics := config.metrics.map (List.map (MetricNode.trimmed platform))
    handlers := config.handlers.map (List.map (HandlerNode.trimmed platform)) }

/-- Trimming the names leaves the metrics and the handlers exactly as they are. -/
structure SameResult : Prop where
  metrics : (config.trimmed platform).metricsMap platform = config.metricsMap platform
  store : (config.trimmed platform).store platform = config.store platform

/-- The metrics are the same but for the blanks around the property names they hold. -/
def SameMetrics : Prop :=
  ∀ id, ((config.trimmed platform).metricsMap platform).lookup id =
    ((config.metricsMap platform).lookup id).map
      (List.map (Option.map (MetricRef.trimmed platform)))

/-- The handlers are the same but for the blanks around the property names of their metrics. -/
def SameStore : Prop :=
  ∀ id, ((config.trimmed platform).store platform).lookup id =
    ((config.store platform).lookup id).map (MqttHandler.trimmed platform)

/-- Trimming the names leaves the metrics and the handlers as they are, up to the blanks around the
property names that the metrics hold. -/
structure SameWiring : Prop where
  metrics : config.SameMetrics platform
  store : config.SameStore platform

/-- No handler entry looked at has a property with blanks around it. -/
def PropertiesTrimmed : Prop :=
  ∀ pair ∈ lookedAt platform (config.metrics.getD []), ∀ property,
    pair.2.property = some property → platform.trim property = property

/-- No handler entry looked at has a property of blanks only. -/
def NoBlankProperty : Prop :=
  ∀ pair ∈ lookedAt platform (config.metrics.getD []), ∀ property,
    pair.2.property = some property → (property = "" ↔ platform.trim property = "")

/-- A handler entry looked at has an id and a property that is not empty. -/
def Offers (id property : String) : Prop :=
  ∃ pair ∈ lookedAt platform (config.metrics.getD []), platform.trim pair.2.handlerId = id ∧
    pair.2.property = some property ∧ property ≠ ""

/-- A handlers entry that takes an offered property only under its trimmed name finds its id served
by an earlier entry. -/
def MatchedAlike : Prop :=
  ∀ before node after, config.handlers.getD [] = before ++ node :: after →
    platform.trim node.id ≠ "" →
    ∀ property, config.Offers platform (platform.trim node.id) property →
      node.Takes platform (platform.trim property) →
        node.Takes platform property ∨
          ∃ earlier ∈ before, platform.trim earlier.id = platform.trim node.id ∧
            ∃ other, config.Offers platform (platform.trim node.id) other ∧
              earlier.Takes platform (platform.trim other)

/-- No property looked at consists of blanks only, and each one with blanks around it that a json
handler lists finds its id served by an earlier handlers entry. -/
structure BlanksHarmless : Prop where
  usable : config.NoBlankProperty platform
  matched : config.MatchedAlike platform

variable {platform config}

/-- The metrics map is the one its log fills. -/
theorem metricsMap_eq :
    config.metricsMap platform = (MetricsBuild.ofLog
      (createdMetrics platform config.defaultTimestamp (config.metrics.getD []))).metrics :=
  configurePrometheusMetrics_eq platform config.defaultTimestamp config.metrics

/-- So is the map of the trimmed configuration. -/
theorem metricsMap_trimmed :
    (config.trimmed platform).metricsMap platform = (MetricsBuild.ofLog
      (createdMetrics platform config.defaultTimestamp
        ((config.metrics.getD []).map (MetricNode.trimmed platform)))).metrics := by
  have hnodes : (config.trimmed platform).metrics.getD [] =
      (config.metrics.getD []).map (MetricNode.trimmed platform) := by
    rw [trimmed]
    cases config.metrics <;> rfl
  rw [metricsMap_eq, hnodes]
  rfl

/-- An object is listed under an id exactly where its metric is logged under it. -/
theorem mem_metricsMap (id : String) (ref : MetricRef) :
    some ref ∈ ((config.metricsMap platform).lookup id).getD [] ↔
      (createdMetrics platform config.defaultTimestamp (config.metrics.getD []))[ref.addr]? =
        some (id, ref.metric) := by
  rw [metricsMap_eq, MetricsBuild.mem_ofLog]

/-- The properties offered under an id are those of its metrics. -/
theorem offers_iff (id property : String) :
    config.Offers platform id property ↔
      ∃ ref, some ref ∈ ((config.metricsMap platform).lookup id).getD [] ∧
        ref.metric.property = property := by
  constructor
  · intro h
    obtain ⟨pair, hpair, rfl, hproperty, hne⟩ := h
    have hmade : madeEntry platform config.defaultTimestamp pair =
        some (platform.trim pair.2.handlerId,
          pair.1.create platform config.defaultTimestamp pair.2 property) := by
      rw [madeEntry_of_some hproperty, if_neg hne]
    obtain ⟨addr, hlogged⟩ := List.mem_iff_getElem?.mp (List.mem_filterMap.mpr ⟨pair, hpair, hmade⟩)
    exact ⟨⟨addr, _⟩, (mem_metricsMap _ _).mpr hlogged, rfl⟩
  · intro h
    obtain ⟨ref, href, rfl⟩ := h
    obtain ⟨pair, hpair, hmade⟩ :=
      List.mem_filterMap.mp (List.mem_of_getElem? ((mem_metricsMap id ref).mp href))
    obtain ⟨hproperty, hne⟩ := property_of_madeEntry hmade
    obtain ⟨_, _, heq⟩ := Option.map_eq_some_iff.mp hmade
    exact ⟨pair, hpair, congrArg Prod.fst heq, hproperty, hne⟩

/-- Blanks are matched harmlessly exactly if the metrics of each id are taken alike. -/
theorem matchedAlike_iff :
    config.MatchedAlike platform ↔
      ∀ id, id ≠ "" → TakenAlike platform (config.handlers.getD []) id
        (((config.metricsMap platform).lookup id).getD []) := by
  simp only [MatchedAlike, offers_iff]
  constructor
  · intro h id hid before node after hsplit htrim ref href htakes
    subst htrim
    rcases h before node after hsplit hid _ ⟨ref, href, rfl⟩ htakes with
      halike | ⟨earlier, hearlier, hsame, _, ⟨other, hother, rfl⟩, hserved⟩
    · exact Or.inl halike
    · exact Or.inr ⟨earlier, hearlier, hsame, other, hother, hserved⟩
  · intro h before node after hsplit hid property hoffered htakes
    obtain ⟨ref, href, rfl⟩ := hoffered
    rcases h _ hid before node after hsplit rfl ref href htakes with
      halike | ⟨earlier, hearlier, hsame, other, hother, hserved⟩
    · exact Or.inl halike
    · exact Or.inr ⟨earlier, hearlier, hsame, _, ⟨other, hother, rfl⟩, hserved⟩

variable (hidem : ∀ text, platform.trim (platform.trim text) = platform.trim text)

include hidem

/-- The handlers of the trimmed configuration are the specified ones on its metrics map. -/
theorem lookup_store_trimmed (id : String) :
    ((config.trimmed platform).store platform).lookup id =
      storedHandler platform (config.handlers.getD [])
        ((config.trimmed platform).metricsMap platform) id := by
  have hnodes : (config.trimmed platform).handlers.getD [] =
      (config.handlers.getD []).map (HandlerNode.trimmed platform) := by
    rw [trimmed]
    cases config.handlers <;> rfl
  rw [lookup_store, hnodes, storedHandler_trimmed hidem]

/-- The result is exactly the same exactly if no property looked at has blanks around it. -/
theorem sameResult_iff :
    config.SameResult platform ↔ config.PropertiesTrimmed platform := by
  rw [PropertiesTrimmed, ← createdMetrics_trimmed_eq_iff hidem config.defaultTimestamp]
  constructor
  · intro h
    have hmetrics := h.metrics
    rw [metricsMap_trimmed, metricsMap_eq] at hmetrics
    exact MetricsBuild.ofLog_injective fun id => congrArg (Finmap.lookup id) hmetrics
  · intro h
    have hmetrics : (config.trimmed platform).metricsMap platform = config.metricsMap platform := by
      rw [metricsMap_trimmed, h, metricsMap_eq]
    refine ⟨hmetrics, Finmap.ext_lookup fun id => ?_⟩
    rw [lookup_store_trimmed hidem, hmetrics, lookup_store]

/-- The metrics are the same up to blanks exactly if no property looked at consists of blanks
only. -/
theorem sameMetrics_iff : config.SameMetrics platform ↔ config.NoBlankProperty platform := by
  have hmap : ∀ handlerId, ((config.metricsMap platform).lookup handlerId).map
      (List.map (Option.map (MetricRef.trimmed platform))) = (MetricsBuild.ofLog
        ((createdMetrics platform config.defaultTimestamp (config.metrics.getD [])).map
          (Prod.map id (Metric.trimmed platform)))).metrics.lookup handlerId := by
    intro handlerId
    rw [MetricsBuild.lookup_ofLog_map, metricsMap_eq]
    rfl
  simp only [SameMetrics, NoBlankProperty, hmap, metricsMap_trimmed,
    ← createdMetrics_trimmed_eq_map_iff hidem config.defaultTimestamp]
  exact ⟨MetricsBuild.ofLog_injective, fun h id => by rw [h]⟩

/-- Given the same metrics up to blanks, the handlers are the same up to blanks exactly if the
metrics of each id are taken alike. -/
theorem sameStore_iff (hmetrics : config.SameMetrics platform) :
    config.SameStore platform ↔
      ∀ id, id ≠ "" → TakenAlike platform (config.handlers.getD []) id
        (((config.metricsMap platform).lookup id).getD []) := by
  refine forall_congr' fun id => ?_
  have hlist : (((config.trimmed platform).metricsMap platform).lookup id).getD [] =
      (((config.metricsMap platform).lookup id).getD []).map
        (Option.map (MetricRef.trimmed platform)) := by
    rw [hmetrics id]
    cases (config.metricsMap platform).lookup id <;> rfl
  rw [lookup_store_trimmed hidem, lookup_store, storedHandler, storedHandler, hlist]
  by_cases hempty : id = ""
  · simp [hempty]
  · have hnonempty : ¬id.isEmpty = true := by simpa using hempty
    rw [if_neg hnonempty, if_neg hnonempty]
    constructor
    · intro hsame _
      refine takenAlike_of_findSome?_eq hidem (fun ref₁ ref₂ h₁ h₂ haddr => ?_) hsame
      have hmetric := (mem_metricsMap id ref₁).mp h₁
      rw [haddr, (mem_metricsMap id ref₂).mp h₂] at hmetric
      cases ref₁
      cases ref₂
      cases haddr
      cases hmetric
      rfl
    · intro halike
      exact (halike hempty).findSome?_eq hidem

/-- The result is the same up to blanks exactly if blanks are harmless. -/
theorem sameWiring_iff :
    config.SameWiring platform ↔ config.BlanksHarmless platform := by
  constructor
  · intro h
    exact ⟨(sameMetrics_iff hidem).mp h.metrics,
      matchedAlike_iff.mpr ((sameStore_iff hidem h.metrics).mp h.store)⟩
  · intro h
    have hmetrics := (sameMetrics_iff hidem).mpr h.usable
    exact ⟨hmetrics, (sameStore_iff hidem hmetrics).mpr (matchedAlike_iff.mp h.matched)⟩

end BridgeConfig

/-- Trimming all names of the metrics and handlers sections leaves metrics and handlers exactly as
they are where no property looked at has blanks around it, and up to the property texts that the
metrics hold where blanks are harmless. -/
theorem trimmed_unchanged_iff (platform : ConfigPlatform)
    (hidem : ∀ text, platform.trim (platform.trim text) = platform.trim text)
    (config : BridgeConfig) :
    (config.SameResult platform ↔ config.PropertiesTrimmed platform) ∧
      (config.SameWiring platform ↔ config.BlanksHarmless platform) :=
  ⟨BridgeConfig.sameResult_iff hidem, BridgeConfig.sameWiring_iff hidem⟩

/-- What is left of a text without its blanks has none at its ends. -/
theorem trimBlanks_trimBlanks (text : String) : trimBlanks (trimBlanks text) = trimBlanks text := by
  have htrim : ∀ text, trimBlanks text =
      .ofList ((text.toList.dropWhile Char.isWhitespace).rdropWhile Char.isWhitespace) := fun _ =>
    rfl
  rw [htrim text]
  generalize text.toList = list
  -- The first character left is the first one of a list whose blanks in front were dropped.
  have hleft : ((list.dropWhile Char.isWhitespace).rdropWhile Char.isWhitespace).dropWhile
      Char.isWhitespace = (list.dropWhile Char.isWhitespace).rdropWhile Char.isWhitespace := by
    have hstart := List.rdropWhile_prefix Char.isWhitespace (list.dropWhile Char.isWhitespace)
    refine List.dropWhile_eq_self_iff.mpr fun hpos => ?_
    rw [hstart.getElem hpos]
    exact List.dropWhile_get_zero_not _ list (hpos.trans_le hstart.length_le)
  rw [htrim, String.toList_ofList, hleft, List.rdropWhile_idempotent]

/-- The blanks around the ids of the temperature example make no difference. -/
theorem trimmed_unchanged_temperature : BridgeConfig.temperature.SameResult .reference := by
  refine (trimmed_unchanged_iff .reference trimBlanks_trimBlanks .temperature).1.mpr
    fun pair hpair property hproperty => ?_
  have hlookedAt : (lookedAt .reference (BridgeConfig.temperature.metrics.getD [])).map
      (fun pair => pair.2.property) = [some "temperature"] := rfl
  have hmem := List.mem_map_of_mem (f := fun pair => pair.2.property) hpair
  rw [hlookedAt, List.mem_singleton, hproperty] at hmem
  cases hmem
  decide

/-- A temperature whose metric names its property with a blank in front. -/
def BridgeConfig.blankProperty : BridgeConfig where
  defaultTimestamp := .on
  metrics := some
    [{ metric := "room_temperature",
       handlers := [{ handlerId := "sensor", property := some " temperature" }] }]
  handlers := some
    [{ id := "sensor", type := "json", properties := .sequence [.scalar "temperature"] }]
  topics := []

/-- Its json handler has no metric and is not made; of the trimmed names it is. -/
theorem unattached_blankProperty :
    ¬BridgeConfig.blankProperty.SameWiring .reference ∧
      ¬BridgeConfig.blankProperty.SameResult .reference := by
  have hsome : (((BridgeConfig.blankProperty.trimmed .reference).store .reference).lookup
      "sensor").isSome = true := by decide
  have hnone : ((BridgeConfig.blankProperty.store .reference).lookup "sensor").isSome = false := by
    decide
  constructor
  · intro h
    rw [h.store, Option.isSome_map, hnone] at hsome
    cases hsome
  · intro h
    rw [h.store, hnone] at hsome
    cases hsome

end MqttBridge
