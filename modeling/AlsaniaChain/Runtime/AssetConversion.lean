import AlsaniaChain.Primitives

/-! # Foreign-asset precompile addresses

`AccountIdAssetIdConversion for Runtime` (`runtime/src/configs/asset_config.rs`) encodes a
foreign asset id `n : u128` as the address `prefix ++ n.to_be_bytes()` and decodes an address by
splitting it after four bytes; only the prefix `[0xFF; 4]` decodes.

The main result, `asset_address_bijection`, says the two directions are inverse on all of
`u128` and on every address with the prefix, and that another four-byte prefix never decodes.
Its parts are `accountToAssetId_assetIdToAccount` (decoding after encoding),
`accountToAssetId_isSome` and `assetIdToAccount_accountToAssetId` (encoding after decoding).
-/

namespace AlsaniaChain.AssetConversion
open BigEndian
set_option autoImplicit false

/-- `FOREIGN_ASSET_PRECOMPILE_ADDRESS_PREFIX`, `[255u8; 4]`. -/
def foreignAssetPrecompileAddressPrefix : List UInt8 := List.replicate 4 255

/-- `account_to_asset_id`: split after four bytes; with the prefix, the last sixteen bytes read
big-endian as the `u128` id (`data.copy_from_slice(id_part)` never panics, `id_part` having the
sixteen bytes `data` has). -/
def accountToAssetId (account : H160) : Option (List UInt8 × BitVec 128) :=
  let (prefixPart, idPart) := account.bytes.splitAt 4
  if prefixPart = foreignAssetPrecompileAddressPrefix then
    some (prefixPart, BitVec.ofNat 128 (ofBytes idPart))
  else
    none

/-- `asset_id_to_account`: the prefix in bytes `0..4` of a zero array and the id's sixteen
big-endian bytes in `4..20`. The first copy panics, here `none`, unless the prefix has four
bytes. -/
def assetIdToAccount (pre : List UInt8) (assetId : BitVec 128) : Option H160 := do
  let data ← H160.zero.copyFromSlice 0 4 pre
  data.copyFromSlice 4 20 (toBytes 16 assetId.toNat)

/-! ## Encoding -/

theorem assetIdToAccount_bytes {pre : List UInt8} (hpre : pre.length = 4) (n : BitVec 128) :
    ∃ a, assetIdToAccount pre n = some a ∧ a.bytes = pre ++ toBytes 16 n.toNat := by
  obtain ⟨d, hd, hdb⟩ := H160.copyFromSlice_bytes H160.zero 0 4 pre (by simpa using hpre)
    (Nat.zero_le 4) (by norm_num)
  obtain ⟨a, ha, hab⟩ := H160.copyFromSlice_bytes d 4 20 (toBytes 16 n.toNat) (by simp)
    (by norm_num) le_rfl
  refine ⟨a, by simp [assetIdToAccount, hd, ha], ?_⟩
  have hd4 : d.bytes.take 4 = pre := by
    rw [hdb]
    simp [H160.zero, hpre]
  rw [hab, hd4]
  have hdrop : d.bytes.drop 20 = [] := List.drop_of_length_le (by rw [d.length_bytes])
  rw [hdrop, List.append_nil]

theorem assetIdToAccount_eq_none {pre : List UInt8} (hpre : pre.length ≠ 4) (n : BitVec 128) :
    assetIdToAccount pre n = none := by
  simp [assetIdToAccount, H160.copyFromSlice_eq_none H160.zero 0 4 pre (by simpa using hpre)]

example :
    ([255, 255, 255] : List UInt8).length ≠ 4 ∧ assetIdToAccount [255, 255, 255] 1 = none :=
  ⟨by decide, assetIdToAccount_eq_none (by decide) 1⟩

/-! ## Decoding -/

theorem accountToAssetId_eq (a : H160) :
    accountToAssetId a =
      if a.bytes.take 4 = foreignAssetPrecompileAddressPrefix then
        some (a.bytes.take 4, BitVec.ofNat 128 (ofBytes (a.bytes.drop 4)))
      else none := by
  simp [accountToAssetId, List.splitAt_eq]

theorem accountToAssetId_isSome (a : H160) :
    (accountToAssetId a).isSome ↔ a.bytes.take 4 = foreignAssetPrecompileAddressPrefix := by
  rw [accountToAssetId_eq]
  split <;> simp_all

theorem accountToAssetId_assetIdToAccount {pre : List UInt8} (hpre : pre.length = 4)
    (n : BitVec 128) : ∃ a, assetIdToAccount pre n = some a ∧
      accountToAssetId a =
        if pre = foreignAssetPrecompileAddressPrefix then some (pre, n) else none := by
  obtain ⟨a, ha, hab⟩ := assetIdToAccount_bytes hpre n
  refine ⟨a, ha, ?_⟩
  have htake : a.bytes.take 4 = pre := by
    rw [hab, List.take_append_of_le_length (by omega), List.take_of_length_le (by omega)]
  have hdrop : a.bytes.drop 4 = toBytes 16 n.toNat := by
    rw [hab, List.drop_append_of_le_length (by omega), List.drop_of_length_le (by omega),
      List.nil_append]
  have hid : BitVec.ofNat 128 (ofBytes (toBytes 16 n.toNat)) = n := by
    rw [ofBytes_toBytes_of_lt (by have := n.isLt; simpa using this)]
    rw [BitVec.ofNat_toNat, BitVec.setWidth_eq]
  rw [accountToAssetId_eq, htake, hdrop, hid]

theorem assetIdToAccount_accountToAssetId {a : H160} {p : List UInt8} {n : BitVec 128}
    (h : accountToAssetId a = some (p, n)) :
    p = foreignAssetPrecompileAddressPrefix ∧ assetIdToAccount p n = some a := by
  rw [accountToAssetId_eq] at h
  split at h
  · rename_i hpre
    simp only [Option.some.injEq, Prod.mk.injEq] at h
    obtain ⟨rfl, rfl⟩ := h
    refine ⟨hpre, ?_⟩
    have hlen : (a.bytes.take 4).length = 4 := by simp [a.length_bytes]
    obtain ⟨b, hb, hbb⟩ := assetIdToAccount_bytes hlen
      (BitVec.ofNat 128 (ofBytes (a.bytes.drop 4)))
    rw [hb]
    congr 1
    apply H160.ext
    have hlt : ofBytes (a.bytes.drop 4) < 2 ^ 128 := by
      have := ofBytes_lt (a.bytes.drop 4)
      simpa [a.length_bytes] using this
    have hdrop16 : (a.bytes.drop 4).length = 16 := by simp [a.length_bytes]
    rw [hbb, BitVec.toNat_ofNat, Nat.mod_eq_of_lt hlt, ← hdrop16, toBytes_ofBytes,
      List.take_append_drop]
  · exact absurd h (by simp)

/-- Decoding inverts encoding on all of `u128`; an address decodes exactly when it starts with
`[0xFF; 4]`, and then re-encodes to itself; another four-byte prefix never decodes. -/
theorem asset_address_bijection :
    (∀ n : BitVec 128, ∃ a, assetIdToAccount foreignAssetPrecompileAddressPrefix n = some a ∧
        accountToAssetId a = some (foreignAssetPrecompileAddressPrefix, n)) ∧
      (∀ a : H160, ((accountToAssetId a).isSome ↔
          a.bytes.take 4 = foreignAssetPrecompileAddressPrefix) ∧
        ∀ p n, accountToAssetId a = some (p, n) →
          p = foreignAssetPrecompileAddressPrefix ∧ assetIdToAccount p n = some a) ∧
      (∀ (p : List UInt8) (n : BitVec 128), p.length = 4 →
        p ≠ foreignAssetPrecompileAddressPrefix →
        ∃ a, assetIdToAccount p n = some a ∧ accountToAssetId a = none) := by
  refine ⟨?_, ?_, ?_⟩
  · intro n
    obtain ⟨a, ha, hdec⟩ := accountToAssetId_assetIdToAccount
      (by rfl : foreignAssetPrecompileAddressPrefix.length = 4) n
    exact ⟨a, ha, by rw [hdec, if_pos rfl]⟩
  · intro a
    exact ⟨accountToAssetId_isSome a, fun p n h => assetIdToAccount_accountToAssetId h⟩
  · intro p n hlen hne
    obtain ⟨a, ha, hdec⟩ := accountToAssetId_assetIdToAccount hlen n
    exact ⟨a, ha, by rw [hdec, if_neg hne]⟩

end AlsaniaChain.AssetConversion
