import CryptoLending.RoutingFees.RoutingFeeAmount

namespace CryptoLending.RoutingFees.RouteClassification

open Lib Lib.JsValue RoutingFeeAmount RoutingFeeRoute

theorem sameEndpoint_iff {left right : RoutingFeeRouteEndpointV1} :
    sameEndpoint left right = true ↔ left = right := by
  cases left
  cases right
  simp [sameEndpoint]

section Legs

/-- Two endpoints that differ in the network or in the asset. -/
def Differ (source destination : RoutingFeeRouteEndpointV1) : Prop :=
  source.networkId ≠ destination.networkId ∨ source.assetId ≠ destination.assetId

theorem differ_iff {source destination : RoutingFeeRouteEndpointV1} :
    Differ source destination ↔ source ≠ destination := by
  cases source
  cases destination
  simp only [Differ, ne_eq, RoutingFeeRouteEndpointV1.mk.injEq, not_and_or]

variable (leg : RoutingFeeRouteLegV1)

theorem leg_same_of_direct (h : leg.kind = .directSettlement) : leg.source = leg.destination := by
  have hvalid := leg.accepted
  rw [legIsValid, h] at hvalid
  simpa [sameEndpoint_iff] using hvalid

theorem leg_network_of_swap (h : leg.kind = .swap) :
    leg.source.networkId = leg.destination.networkId := by
  have hvalid := leg.accepted
  rw [legIsValid, h] at hvalid
  have hboth : leg.source.networkId = leg.destination.networkId ∧
      leg.source.assetId ≠ leg.destination.assetId := by simpa using hvalid
  exact hboth.1

/-- A leg that leaves its network is a bridge. -/
theorem leg_bridge_of_network (h : leg.source.networkId ≠ leg.destination.networkId) :
    leg.kind = .bridge := by
  cases hkind : leg.kind with
  | directSettlement => exact absurd (congrArg (·.networkId) (leg_same_of_direct leg hkind)) h
  | swap => exact absurd (leg_network_of_swap leg hkind) h
  | bridge => rfl

/-- A leg that moves value is a swap or a bridge. -/
theorem leg_moves (h : leg.source ≠ leg.destination) : leg.kind = .swap ∨ leg.kind = .bridge := by
  cases hkind : leg.kind with
  | directSettlement => exact absurd (leg_same_of_direct leg hkind) h
  | swap => exact .inl rfl
  | bridge => exact .inr rfl

end Legs

section Routes

/-- The legs lead from one endpoint to another, each from where the one before it ended. -/
inductive Leads : RoutingFeeRouteEndpointV1 → List RoutingFeeRouteLegV1 →
    RoutingFeeRouteEndpointV1 → Prop
  | last (leg : RoutingFeeRouteLegV1) : Leads leg.source [leg] leg.destination
  | cons (leg : RoutingFeeRouteLegV1) {legs : List RoutingFeeRouteLegV1}
    {destination : RoutingFeeRouteEndpointV1} (h : Leads leg.destination legs destination) :
    Leads leg.source (leg :: legs) destination

theorem leads_of_connects {source destination : RoutingFeeRouteEndpointV1}
    {legs : List RoutingFeeRouteLegV1} (h : routeConnects source destination legs = true) :
    Leads source legs destination := by
  induction legs generalizing source with
  | nil => simp [routeConnects] at h
  | cons leg legs ih =>
    cases legs with
    | nil =>
      simp only [routeConnects, List.head?_cons, List.getLast?_singleton, Option.any_some,
        legsConnect, Bool.and_true, Bool.and_eq_true, sameEndpoint_iff] at h
      obtain ⟨rfl, rfl⟩ := h
      exact .last leg
    | cons next rest =>
      simp only [routeConnects, List.head?_cons, List.getLast?_cons_cons, Option.any_some,
        legsConnect, Bool.and_eq_true, sameEndpoint_iff] at h
      obtain ⟨⟨rfl, hlast⟩, hnext, hrest⟩ := h
      apply Leads.cons
      apply ih
      simp only [routeConnects, List.head?_cons, Option.any_some, Bool.and_eq_true,
        sameEndpoint_iff]
      exact ⟨⟨hnext, hlast⟩, hrest⟩

theorem route_leads (route : RoutingFeeRouteV1) :
    Leads route.source route.legs route.destination := leads_of_connects route.connected

/-- What distinguishes the ends of a chain of legs distinguishes the ends of one of them. -/
theorem Leads.exists_leg {α : Type} (f : RoutingFeeRouteEndpointV1 → α)
    {source destination : RoutingFeeRouteEndpointV1} {legs : List RoutingFeeRouteLegV1}
    (h : Leads source legs destination) (hne : f source ≠ f destination) :
    ∃ leg ∈ legs, f leg.source ≠ f leg.destination := by
  induction h with
  | last leg => exact ⟨leg, List.mem_cons_self, hne⟩
  | cons leg h ih =>
    by_cases hleg : f leg.source = f leg.destination
    · obtain ⟨leg', hmem, hne'⟩ := ih (hleg ▸ hne)
      exact ⟨leg', List.mem_cons_of_mem _ hmem, hne'⟩
    · exact ⟨leg, List.mem_cons_self, hleg⟩

variable (route : RoutingFeeRouteV1)

theorem route_moves (h : Differ route.source route.destination) :
    ∃ leg ∈ route.legs, leg.kind = .swap ∨ leg.kind = .bridge := by
  obtain ⟨leg, hmem, hne⟩ := (route_leads route).exists_leg id (differ_iff.1 h)
  exact ⟨leg, hmem, leg_moves leg hne⟩

theorem route_bridges (h : route.source.networkId ≠ route.destination.networkId) :
    ∃ leg ∈ route.legs, leg.kind = .bridge := by
  obtain ⟨leg, hmem, hne⟩ := (route_leads route).exists_leg (·.networkId) h
  exact ⟨leg, hmem, leg_bridge_of_network leg hne⟩

/-- Only a single direct settlement is classified as directly compatible. -/
theorem classify_direct_iff : (classifyNormalizedRoute route).kind = .directCompatible ↔
    ∃ leg, route.legs = [leg] ∧ leg.kind = .directSettlement := by
  obtain ⟨source, destination, legs, hconnected⟩ := route
  cases legs with
  | nil => cases leads_of_connects hconnected
  | cons leg legs =>
    cases legs with
    | nil => cases hkind : leg.kind <;> simp [classifyNormalizedRoute, hkind]
    | cons next legs => simp [classifyNormalizedRoute]

theorem classify_material_of_not_direct
    (h : (classifyNormalizedRoute route).kind ≠ .directCompatible) :
    (classifyNormalizedRoute route).kind = .materialOrchestration := by
  cases hkind : (classifyNormalizedRoute route).kind with
  | directCompatible => exact absurd hkind h
  | materialOrchestration => rfl

theorem direct_same (h : (classifyNormalizedRoute route).kind = .directCompatible) :
    route.source = route.destination := by
  obtain ⟨leg, hlegs, hkind⟩ := (classify_direct_iff route).mp h
  by_contra hne
  obtain ⟨leg', hmem, hmoves⟩ := route_moves route (differ_iff.2 hne)
  rw [hlegs, List.mem_singleton] at hmem
  rw [hmem, hkind] at hmoves
  obtain hmoves | hmoves := hmoves
  · cases hmoves
  · cases hmoves

/-- What the kinds of the legs of an accepted route and its class say about its endpoints. -/
structure RouteLaws (v : Value) (route : RoutingFeeRouteV1) : Prop where
  moves : Differ route.source route.destination →
    ∃ leg ∈ route.legs, leg.kind = .swap ∨ leg.kind = .bridge
  bridges : route.source.networkId ≠ route.destination.networkId →
    ∃ leg ∈ route.legs, leg.kind = .bridge
  classified : ∃ classification, classifyRoutingFeeRouteV1 v = .ok classification ∧
    (classification.kind = .directCompatible ↔
      ∃ leg, route.legs = [leg] ∧ leg.kind = .directSettlement) ∧
    (classification.kind = .directCompatible → route.source = route.destination) ∧
    (Differ route.source route.destination → classification.kind = .materialOrchestration)

theorem normalizeRoutingFeeRouteV1_laws {v : Value} {route : RoutingFeeRouteV1}
    (h : normalizeRoutingFeeRouteV1 v = .ok route) : RouteLaws v route := by
  refine ⟨route_moves route, route_bridges route, classifyNormalizedRoute route, ?_,
    classify_direct_iff route, direct_same route, ?_⟩
  · rw [classifyRoutingFeeRouteV1, h]
    rfl
  · intro hdiffer
    apply classify_material_of_not_direct
    exact fun hdirect => differ_iff.1 hdiffer (direct_same route hdirect)

end Routes

section Sample

def endpointRecord (networkId assetId : String) : Value :=
  ofFields [("networkId", .string networkId), ("assetId", .string assetId)]

/-- A swap on one network, then a bridge to another. -/
def sampleRoute : Value :=
  ofFields [("schemaVersion", .integer 1), ("source", endpointRecord "ethereum" "usdc"),
    ("destination", endpointRecord "solana" "usdt"),
    ("legs", ofItems [
      ofFields [("kind", .string "SWAP"), ("source", endpointRecord "ethereum" "usdc"),
        ("destination", endpointRecord "ethereum" "usdt")],
      ofFields [("kind", .string "BRIDGE"), ("source", endpointRecord "ethereum" "usdt"),
        ("destination", endpointRecord "solana" "usdt")]])]

theorem sampleRoute_laws : ∃ route, normalizeRoutingFeeRouteV1 sampleRoute = .ok route ∧
    RouteLaws sampleRoute route := by
  have haccepted : (normalizeRoutingFeeRouteV1 sampleRoute).isOk = true := by decide
  obtain ⟨route, hroute⟩ := except_exists_of_isOk haccepted
  exact ⟨route, hroute, normalizeRoutingFeeRouteV1_laws hroute⟩

end Sample

end CryptoLending.RoutingFees.RouteClassification
