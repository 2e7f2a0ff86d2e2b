import AlsaniaChain.Xcm.Location

/-! # Inbound reserves and outbound reserve providers

The runtime decides twice whether Asset Hub is the reserve of an asset. Inbound, the executor's
`Reserves` filter accepts a reserve transfer from an origin; outbound, `ReserveProviders` names the
reserve `orml_xtokens` sends to. The two are written separately in `xcm_config.rs`:

* `reserves` is the tuple `(IsBridgedConcreteAssetFrom<AssetHubLocation>,
  Case<RelayChainNativeAssetFromAssetHub>, MultiNativeAsset<AbsoluteAndRelativeReserve<..>>)`,
  accepting when one member does;
* `reserveProviders` is `DOTReserveProvider`, then `BridgedAssetReserveProvider`, then
  `AbsoluteAndRelativeReserve`, the first `Some` winning.

`AbsoluteAndRelativeReserve` (from `xcm_primitives`) is the parameter `relativeReserve` on both
sides. The inbound bridged test accepts every fungible asset with exactly two parents, although
its comment says more than one; the outbound one names Asset Hub for every asset with more than
one parent whose interior starts with `GlobalConsensus`. `reserves_iff_reserveProviders` says
exactly where the two meet: they agree below two parents and on bridged assets with two parents,
the inbound filter alone accepts the other two-parent assets, and the outbound providers alone
take bridged assets with three parents or more (`reserves_disagree_bridged`).
-/

namespace AlsaniaChain.Xcm
set_option autoImplicit false

/-- `AssetHubLocation`, `(1, [Parachain(1000)])`. -/
def assetHubLocation : Location := ⟨1, [.parachain 1000]⟩

/-- `RelayLocationFilter`: every fungible amount of the relay chain's native asset. -/
def relayLocationFilter : AssetFilter := .wild (.allOf Location.parent .fungible)

def relayChainNativeAssetFromAssetHub : AssetFilter × Location :=
  (relayLocationFilter, assetHubLocation)

/-- `IsBridgedConcreteAssetFrom<Origin>::contains`. -/
def isBridgedConcreteAssetFrom (originLocation : Location) (asset : Asset) (origin : Location) :
    Bool :=
  originLocation == origin &&
    match asset with
    | ⟨⟨2, _⟩, .fungible _⟩ => true
    | _ => false

/-- `xcm_builder::Case<T>`: the filter matches the asset and the origin is `T`'s location. -/
def case (t : AssetFilter × Location) (asset : Asset) (origin : Location) : Bool :=
  t.1.matches asset && t.2 == origin

/-- `orml_xcm_support::MultiNativeAsset<R>`: the origin is the asset's reserve. -/
def multiNativeAsset (reserve : Asset → Option Location) (asset : Asset) (origin : Location) :
    Bool :=
  reserve asset == some origin

section Providers
variable (relativeReserve : Asset → Option Location)

/-- `Reserves`: a tuple of filters accepts when one of its members does. -/
def reserves (asset : Asset) (origin : Location) : Bool :=
  isBridgedConcreteAssetFrom assetHubLocation asset origin ||
    case relayChainNativeAssetFromAssetHub asset origin ||
    multiNativeAsset relativeReserve asset origin

/-- `DOTReserveProvider::reserve`. -/
def dotReserveProvider (asset : Asset) : Option Location :=
  if asset.id == ⟨1, []⟩ then some assetHubLocation else none

/-- `BridgedAssetReserveProvider::reserve`. -/
def bridgedAssetReserveProvider (asset : Asset) : Option Location :=
  if asset.id.parents > 1 && (splitGlobal asset.id.interior).isOk then some assetHubLocation
  else none

/-- `ReserveProviders::reserve`. -/
def reserveProviders (asset : Asset) : Option Location :=
  (dotReserveProvider asset).orElse fun _ =>
    (bridgedAssetReserveProvider asset).orElse fun _ => relativeReserve asset

/-! ## Each side as a disjunction -/

theorem isBridgedConcreteAssetFrom_assetHub (asset : Asset) (amount : BitVec 128)
    (hf : asset.fungibility = .fungible amount) :
    isBridgedConcreteAssetFrom assetHubLocation asset assetHubLocation = true ↔
      asset.id.parents = 2 := by
  obtain ⟨⟨parents, interior⟩, fungibility⟩ := asset
  subst hf
  unfold isBridgedConcreteAssetFrom
  by_cases h : parents = 2
  · subst h
    simp
  · simp only [beq_self_eq_true, Bool.true_and]
    constructor
    · intro hm
      split at hm
      · rename_i heq
        simp only [Asset.mk.injEq, Location.mk.injEq] at heq
        exact absurd heq.1.1 h
      · exact absurd hm (by simp)
    · intro hp
      exact absurd hp h

theorem case_relay_assetHub (asset : Asset) (amount : BitVec 128)
    (hf : asset.fungibility = .fungible amount) :
    case relayChainNativeAssetFromAssetHub asset assetHubLocation = true ↔
      asset.id = Location.parent := by
  unfold case relayChainNativeAssetFromAssetHub relayLocationFilter
  simp only [beq_self_eq_true, Bool.and_true]
  rw [allOf_matches, hf]
  simp [Fungibility.isKind]

theorem reserves_assetHub (asset : Asset) (amount : BitVec 128)
    (hf : asset.fungibility = .fungible amount) :
    reserves relativeReserve asset assetHubLocation = true ↔
      asset.id.parents = 2 ∨ asset.id = Location.parent ∨
        relativeReserve asset = some assetHubLocation := by
  unfold reserves
  rw [Bool.or_eq_true, Bool.or_eq_true, isBridgedConcreteAssetFrom_assetHub asset amount hf,
    case_relay_assetHub asset amount hf]
  unfold multiNativeAsset
  simp only [beq_iff_eq, or_assoc]

theorem dotReserveProvider_eq (asset : Asset) :
    dotReserveProvider asset =
      if asset.id = Location.parent then some assetHubLocation else none := by
  unfold dotReserveProvider Location.parent
  by_cases h : asset.id = ⟨1, []⟩ <;> simp [h]

theorem bridgedAssetReserveProvider_eq (asset : Asset) :
    bridgedAssetReserveProvider asset =
      if 1 < asset.id.parents ∧ StartsWithGlobal asset.id.interior then some assetHubLocation
      else none := by
  unfold bridgedAssetReserveProvider
  simp [splitGlobal_isOk]

/-- Both named providers answer only `Asset Hub`, so the chain names it exactly when one of
its three members does. -/
theorem reserveProviders_assetHub (asset : Asset) :
    reserveProviders relativeReserve asset = some assetHubLocation ↔
      asset.id = Location.parent ∨
        (1 < asset.id.parents ∧ StartsWithGlobal asset.id.interior) ∨
        relativeReserve asset = some assetHubLocation := by
  unfold reserveProviders
  rw [dotReserveProvider_eq, bridgedAssetReserveProvider_eq]
  by_cases hdot : asset.id = Location.parent
  · simp [hdot]
  · by_cases hbr : 1 < asset.id.parents ∧ StartsWithGlobal asset.id.interior
    · simp [hdot, hbr]
    · simp [hdot, hbr]

end Providers

/-! ## Where the two sides meet -/

/-- `AbsoluteAndRelativeReserve` gives no reserve to an asset more than one level above this
chain: its relative reserve is the chain part of the location, and a location with two or more
parents has none. -/
def NoReserveAboveParent (relativeReserve : Asset → Option Location) : Prop :=
  ∀ asset, 1 < asset.id.parents → relativeReserve asset = none

theorem parent_parents : Location.parent.parents = 1 := rfl

theorem parents_eq_two_iff (p : UInt8) : p = 2 ↔ 1 < p ∧ p ≤ 2 := by
  rw [← UInt8.toNat_inj, UInt8.lt_iff_toNat_lt, UInt8.le_iff_toNat_le]
  simp only [UInt8.reduceToNat]
  omega

theorem parents_le_two_of_not_lt (p : UInt8) (h : ¬ 1 < p) : p ≤ 2 := by
  rw [UInt8.lt_iff_toNat_lt] at h
  rw [UInt8.le_iff_toNat_le]
  simp only [UInt8.reduceToNat] at h ⊢
  omega

/-- For every fungible asset, the inbound filter accepts it from Asset Hub exactly when the
outbound providers name Asset Hub and the asset has at most two parents, or when it has exactly
two parents and its interior does not start with `GlobalConsensus`. -/
theorem reserves_iff_reserveProviders (relativeReserve : Asset → Option Location)
    (hrel : NoReserveAboveParent relativeReserve) (asset : Asset) (amount : BitVec 128)
    (hf : asset.fungibility = .fungible amount) :
    reserves relativeReserve asset assetHubLocation = true ↔
      (reserveProviders relativeReserve asset = some assetHubLocation ∧ asset.id.parents ≤ 2) ∨
        (asset.id.parents = 2 ∧ ¬ StartsWithGlobal asset.id.interior) := by
  rw [reserves_assetHub relativeReserve asset amount hf,
    reserveProviders_assetHub relativeReserve asset]
  by_cases hp : 1 < asset.id.parents
  · have hnone : relativeReserve asset ≠ some assetHubLocation := by
      intro h
      rw [hrel asset hp] at h
      cases h
    have hnotparent : asset.id ≠ Location.parent := by
      intro h
      rw [h, parent_parents] at hp
      exact absurd hp (by decide)
    have htwo := parents_eq_two_iff asset.id.parents
    by_cases hg : StartsWithGlobal asset.id.interior
    · simp only [hnotparent, hnone, hg, hp, true_and, false_or, or_false, not_true_eq_false,
        and_false]
      exact ⟨fun h => (htwo.mp h).2, fun h => htwo.mpr ⟨hp, h⟩⟩
    · simp only [hnotparent, hnone, hg, false_or, or_false, and_false, not_false_eq_true,
        and_true, false_and]
  · have hnot2 : asset.id.parents ≠ 2 := fun h => hp (((parents_eq_two_iff _).mp h).1)
    have hle := parents_le_two_of_not_lt asset.id.parents hp
    simp [hnot2, hp, hle]

/-- An Ethereum asset three levels up, bridged through Asset Hub. -/
def ethereumThreeUp : Asset := ⟨⟨3, [.globalConsensus (.ethereum 1)]⟩, .fungible 1⟩

/-- An asset two levels up with nothing below. -/
def twoUpHere : Asset := ⟨⟨2, []⟩, .fungible 1⟩

/-- `IsBridgedConcreteAssetFrom` matches `parents: 2` where its comment and
`BridgedAssetReserveProvider` say `parents > 1`. So the outbound providers name Asset Hub as the
reserve of a bridged asset three levels up, which the inbound filter rejects from Asset Hub; and
the inbound filter accepts from Asset Hub an asset two levels up with nothing below, for which
the outbound chain names no reserve. -/
theorem reserves_disagree_bridged (relativeReserve : Asset → Option Location)
    (hrel : NoReserveAboveParent relativeReserve) :
    (reserveProviders relativeReserve ethereumThreeUp = some assetHubLocation ∧
        reserves relativeReserve ethereumThreeUp assetHubLocation = false) ∧
      (reserves relativeReserve twoUpHere assetHubLocation = true ∧
        reserveProviders relativeReserve twoUpHere = none) := by
  have hprov : reserveProviders relativeReserve ethereumThreeUp = some assetHubLocation := rfl
  have hthree : ¬ (ethereumThreeUp.id.parents ≤ 2 ∨ ethereumThreeUp.id.parents = 2) := by decide
  refine ⟨⟨hprov, ?_⟩, ⟨?_, ?_⟩⟩
  · rw [Bool.eq_false_iff]
    intro hres
    rcases (reserves_iff_reserveProviders relativeReserve hrel _ 1 rfl).mp hres with
      ⟨-, hle⟩ | ⟨htwo, -⟩
    · exact hthree (.inl hle)
    · exact hthree (.inr htwo)
  · exact (reserves_assetHub relativeReserve _ 1 rfl).mpr (.inl rfl)
  · have hnone : relativeReserve twoUpHere = none := hrel _ (by decide)
    have hdot : twoUpHere.id ≠ Location.parent := by decide
    have hbr : ¬ (1 < twoUpHere.id.parents ∧ StartsWithGlobal twoUpHere.id.interior) := by decide
    simp only [reserveProviders, dotReserveProvider_eq, bridgedAssetReserveProvider_eq, if_neg hdot,
      if_neg hbr, Option.orElse_none, hnone]

/-- The disagreement where `AbsoluteAndRelativeReserve` gives no asset a reserve. -/
theorem reserves_disagree_bridged_no_relative :
    NoReserveAboveParent (fun _ => none) ∧
      (reserveProviders (fun _ => none) ethereumThreeUp = some assetHubLocation ∧
          reserves (fun _ => none) ethereumThreeUp assetHubLocation = false) ∧
        (reserves (fun _ => none) twoUpHere assetHubLocation = true ∧
          reserveProviders (fun _ => none) twoUpHere = none) :=
  ⟨fun _ _ => rfl, reserves_disagree_bridged (fun _ => none) fun _ _ => rfl⟩

end AlsaniaChain.Xcm
