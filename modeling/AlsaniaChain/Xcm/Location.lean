import AlsaniaChain.Primitives

/-! # XCM locations and assets

The data the runtime's XCM configuration (`runtime/src/configs/xcm_config.rs`) inspects, as
`xcm::latest` (version 4) defines it: junctions, locations, fungible and non-fungible assets and
asset filters. `Junctions` (`Here`, `X1` .. `X8`) is a list of junctions here.

Two operations of the `xcm` crate that the configuration calls are defined after its
documentation: `Junctions::split_global`, which succeeds exactly when the first junction is a
`GlobalConsensus` (`splitGlobal_isOk`), and `AssetFilter::matches`.
-/

namespace AlsaniaChain.Xcm
set_option autoImplicit false

inductive NetworkId where
  | byGenesis (hash : List UInt8)
  | byFork (blockNumber : UInt64) (blockHash : List UInt8)
  | polkadot
  | kusama
  | westend
  | rococo
  | wococo
  | ethereum (chainId : UInt64)
  | bitcoinCore
  | bitcoinCash
  | polkadotBulletin
  deriving DecidableEq, Repr

inductive BodyId where
  | unit
  | moniker (name : List UInt8)
  | index (n : UInt32)
  | executive
  | technical
  | legislative
  | judicial
  | defense
  | administration
  | treasury
  deriving DecidableEq, Repr

inductive BodyPart where
  | voice
  | members (count : UInt32)
  | fraction (nom denom : UInt32)
  | atLeastProportion (nom denom : UInt32)
  | moreThanProportion (nom denom : UInt32)
  deriving DecidableEq, Repr

inductive Junction where
  | parachain (id : UInt32)
  | accountId32 (network : Option NetworkId) (id : List UInt8)
  | accountIndex64 (network : Option NetworkId) (index : UInt64)
  | accountKey20 (network : Option NetworkId) (key : H160)
  | palletInstance (index : UInt8)
  | generalIndex (index : BitVec 128)
  | generalKey (length : UInt8) (data : List UInt8)
  | onlyChild
  | plurality (id : BodyId) (part : BodyPart)
  | globalConsensus (network : NetworkId)
  deriving DecidableEq, Repr

/-- A location: how many levels up, then the junctions down from there. -/
structure Location where
  parents : UInt8
  interior : List Junction
  deriving DecidableEq, Repr

inductive AssetInstance where
  | undefined
  | index (n : BitVec 128)
  | array (bytes : List UInt8)
  deriving DecidableEq, Repr

inductive Fungibility where
  | fungible (amount : BitVec 128)
  | nonFungible (inst : AssetInstance)
  deriving DecidableEq, Repr

/-- An asset: its id (the `AssetId` newtype around a location) and its fungibility. -/
structure Asset where
  id : Location
  fungibility : Fungibility
  deriving DecidableEq, Repr

inductive WildFungibility where
  | fungible
  | nonFungible
  deriving DecidableEq, Repr

inductive WildAsset where
  | all
  | allOf (id : Location) (fungibility : WildFungibility)
  | allCounted (count : UInt32)
  | allOfCounted (id : Location) (fungibility : WildFungibility) (count : UInt32)
  deriving DecidableEq, Repr

inductive AssetFilter where
  | definite (assets : List Asset)
  | wild (w : WildAsset)
  deriving DecidableEq, Repr

namespace Location

/-- `Location::here()`. -/
def here : Location := ⟨0, []⟩

/-- `Location::parent()`. -/
def parent : Location := ⟨1, []⟩

end Location

/-- `Junctions::split_global`: the network of a leading `GlobalConsensus` and the rest. -/
def splitGlobal : List Junction → Except Unit (NetworkId × List Junction)
  | .globalConsensus network :: rest => .ok (network, rest)
  | _ => .error ()

/-- The interior starts with a `GlobalConsensus` junction. -/
def StartsWithGlobal (interior : List Junction) : Prop :=
  ∃ network rest, interior = .globalConsensus network :: rest

theorem splitGlobal_isOk (interior : List Junction) :
    (splitGlobal interior).isOk = true ↔ StartsWithGlobal interior := by
  unfold StartsWithGlobal
  constructor
  · intro h
    match interior, h with
    | .globalConsensus network :: rest, _ => exact ⟨network, rest, rfl⟩
  · rintro ⟨network, rest, rfl⟩
    rfl

instance (interior : List Junction) : Decidable (StartsWithGlobal interior) :=
  decidable_of_iff _ (splitGlobal_isOk interior)

/-- `Fungibility::is_kind`. -/
def Fungibility.isKind : Fungibility → WildFungibility → Bool
  | .fungible _, .fungible => true
  | .nonFungible _, .nonFungible => true
  | _, _ => false

/-- `WildAsset::contains`. -/
def WildAsset.contains : WildAsset → Asset → Bool
  | .allOfCounted _ _ 0, _ => false
  | .allCounted 0, _ => false
  | .allOf id fungibility, inner => inner.fungibility.isKind fungibility && inner.id == id
  | .allOfCounted id fungibility _, inner =>
    inner.fungibility.isKind fungibility && inner.id == id
  | .all, _ => true
  | .allCounted _, _ => true

/-- `AssetFilter::matches`. -/
def AssetFilter.matches : AssetFilter → Asset → Bool
  | .definite assets, inner => assets.contains inner
  | .wild w, inner => w.contains inner

theorem allOf_matches (id : Location) (fungibility : WildFungibility) (inner : Asset) :
    (AssetFilter.wild (.allOf id fungibility)).matches inner = true ↔
      inner.fungibility.isKind fungibility = true ∧ inner.id = id := by
  unfold AssetFilter.matches WildAsset.contains
  simp

end AlsaniaChain.Xcm
