import AlsaniaChain.Xcm.Location

/-! # Currencies, fee assets and the other location filters

The rest of `runtime/src/configs/xcm_config.rs`:

* `currencyIdToLocation` (`CurrencyIdToLocation::convert`): the native currency is the Balances
  pallet, a foreign asset is looked up (`AsAssetType::convert_back`, the asset manager's
  storage, a parameter here), and an ERC-20 token is the ERC-20 bridge pallet's location with
  the contract's `AccountKey20` pushed on. `push_interior` fails on a location of eight
  junctions, and `.ok()` drops that error;
* `assetFeesFilter`: a fee asset must come from above and not start like the bridge pallet;
* `parentOrParentsExecutivePlurality`, `parachainMinFee` and `Transactors`.

`currencyIdToLocation_erc20` gives a token's location, and `currencyIdToLocation_erc20_of_full`
says that at a bridge location of eight junctions every token is sent to the bridge pallet
itself.
-/

namespace AlsaniaChain.Xcm
set_option autoImplicit false

/-- `Location::push_interior`: `Junctions` holds at most eight junctions. -/
def Location.pushInterior (l : Location) (j : Junction) : Except Junction Location :=
  if l.interior.length < 8 then .ok ⟨l.parents, l.interior ++ [j]⟩ else .error j

inductive CurrencyId where
  | selfReserve
  | foreignAsset (asset : BitVec 128)
  | erc20 (contractAddress : H160)
  deriving DecidableEq, Repr

/-- `SelfReserve`: the Balances pallet, under this chain. -/
def selfReserve (balancesIndex : UInt8) : Location := ⟨0, [.palletInstance balancesIndex]⟩

section Currency
variable (balancesIndex : UInt8) (erc20XcmBridgePalletLocation : Location)
  (convertBack : BitVec 128 → Option Location)

/-- `CurrencyIdToLocation::convert`. -/
def currencyIdToLocation : CurrencyId → Option Location
  | .selfReserve => some (selfReserve balancesIndex)
  | .foreignAsset asset => convertBack asset
  | .erc20 contractAddress =>
    let location := erc20XcmBridgePalletLocation
    -- `push_interior(..).ok()`: a failed push leaves the location as it was
    let location :=
      match location.pushInterior (.accountKey20 none contractAddress) with
      | .ok pushed => pushed
      | .error _ => location
    some location

/-- `AssetFeesFilter::contains`. -/
def assetFeesFilter (location : Location) : Bool :=
  decide (0 < location.parents) &&
    decide (location.interior.head? ≠ erc20XcmBridgePalletLocation.interior.head?)

theorem pushInterior_eq (l : Location) (j : Junction) :
    l.pushInterior j =
      if l.interior.length < 8 then .ok ⟨l.parents, l.interior ++ [j]⟩ else .error j := rfl

theorem currencyIdToLocation_erc20 (contractAddress : H160) :
    currencyIdToLocation balancesIndex erc20XcmBridgePalletLocation convertBack
        (.erc20 contractAddress) =
      some (if erc20XcmBridgePalletLocation.interior.length < 8 then
        ⟨erc20XcmBridgePalletLocation.parents,
          erc20XcmBridgePalletLocation.interior ++ [.accountKey20 none contractAddress]⟩
        else erc20XcmBridgePalletLocation) := by
  simp only [currencyIdToLocation, pushInterior_eq]
  split_ifs <;> rfl

/-- At a bridge location of eight junctions the push fails and every token gets the bridge
pallet's own location. -/
theorem currencyIdToLocation_erc20_of_full
    (hfull : ¬ erc20XcmBridgePalletLocation.interior.length < 8) (contractAddress : H160) :
    currencyIdToLocation balancesIndex erc20XcmBridgePalletLocation convertBack
        (.erc20 contractAddress) = some erc20XcmBridgePalletLocation := by
  rw [currencyIdToLocation_erc20, if_neg hfull]

end Currency

/-- `ParentOrParentsExecutivePlurality::contains`: the relay chain, or its executive body. -/
def parentOrParentsExecutivePlurality (location : Location) : Bool :=
  match location.parents, location.interior with
  | 1, [] => true
  | 1, [.plurality .executive _] => true
  | _, _ => false

/-- `ParachainMinFee`: Asset Hub and what lies under it pay at least `50_000_000`. -/
def parachainMinFee (location : Location) : Option ℕ :=
  match location.parents, location.interior.head? with
  | 1, some (.parachain 1000) => some 50000000
  | _, _ => none

/-- `Transactors`: the relay chain is the only transactor. -/
inductive Transactors where
  | relay
  deriving DecidableEq, Repr

/-- `TryFrom<u8> for Transactors`. -/
def Transactors.tryFrom (value : UInt8) : Except Unit Transactors :=
  if value = 0 then .ok .relay else .error ()

/-- `XcmTransact::destination`. -/
def Transactors.destination : Transactors → Location
  | .relay => Location.parent

end AlsaniaChain.Xcm
