import Phonelets.Sms.TextRoundTrip
import Phonelets.Stk.Dispatch

/-! # What the handlers read and write

Most handlers stay inside of the value and of their destination, whatever the length of
the TLV. Those that take a longer value than their array, and those that read in front of
a check, are described exactly.
-/

namespace Phonelets.Stk

open List Outcome
open Phonelets.Sim
open Phonelets.Sms (GConvert readOctets smsDecodeScts_ne_fault)
open Outcome (orReject orFault)

/-! ## Steps that stay inside -/

section Steps

variable {α β : Type} {data : List UInt8}

lemma ok_ne_fault (a : α) : (pure a : Outcome α) ≠ .fault := by simp

lemma bind_ne_fault {x : Outcome α} {f : α → Outcome β} (hx : x ≠ .fault)
    (hf : ∀ a, x = .ok a → f a ≠ .fault) : (x >>= f) ≠ .fault := by
  rw [Ne, Outcome.bind_eq_fault]
  rintro (h | ⟨a, ha, h⟩)
  · exact hx h
  · exact hf a ha h

variable {i : ℕ}

lemma dataAt_eq (h : i < data.length) : dataAt data i = .ok data[i] := by
  unfold dataAt
  rw [getElem?_eq_getElem h, orFault_some]

lemma dataAt_ne_fault (h : i < data.length) : dataAt data i ≠ .fault := by
  rw [dataAt_eq h]
  simp

lemma dataAt_bind {f : UInt8 → Outcome β} (h : i < data.length)
    (hf : ∀ b, f b ≠ .fault) : (dataAt data i >>= f) ≠ .fault :=
  bind_ne_fault (dataAt_ne_fault h) fun b _ => hf b

lemma readOctets_eq {offset len : ℕ} (h : offset + len ≤ data.length) :
    readOctets data offset len = .ok ((data.drop offset).take len) := if_pos h

lemma readOctets_bind {offset len : ℕ} {f : List UInt8 → Outcome β} (h : offset + len ≤ data.length)
    (hf : ∀ os, os.length = len → f os ≠ .fault) : (readOctets data offset len >>= f) ≠ .fault := by
  rw [readOctets_eq h, ok_bind]
  apply hf
  rw [length_take, length_drop]
  omega

variable {size : ℕ}

lemma store_ne_fault (h : data.length ≤ size) : orFault (Filled.store size data) ≠ .fault := by
  rw [Filled.store_eq_some h]
  simp

lemma store_eq_fault_iff : orFault (Filled.store size data) = .fault ↔ size < data.length := by
  by_cases h : size < data.length
  · simp [Filled.store_eq_none h, h]
  · rw [Filled.store_eq_some (by omega)]
    simp [h]

lemma store_bind {f : Filled size → Outcome β} (h : data.length ≤ size)
    (hf : ∀ a, f a ≠ .fault) : (orFault (Filled.store size data) >>= f) ≠ .fault :=
  bind_ne_fault (store_ne_fault h) fun a _ => hf a

lemma stringStore_ne_fault (h : data.length < size) :
    orFault (CString.store size data) ≠ .fault := by
  rcases CString.store_eq_some h with ⟨s, hs, -⟩
  rw [hs]
  simp

lemma gTryMalloc_bind {f : Unit → Outcome β} (hf : f () ≠ .fault) :
    (gTryMalloc size >>= f) ≠ .fault := by
  refine bind_ne_fault ?_ fun _ _ => hf
  unfold gTryMalloc
  split_ifs <;> simp

lemma within_eq (h : data.length ≤ size) : within size data = .ok data := if_pos h

lemma within_ne_fault (h : data.length ≤ size) : within size data ≠ .fault := by
  rw [within_eq h]
  simp

lemma heapString_ne_fault (h : data.length < size) : heapString size data ≠ .fault := by
  refine bind_ne_fault (within_ne_fault ?_) fun written _ => ok_ne_fault _
  rw [length_append, length_singleton]
  omega

lemma mapM_eq_fault_iff {f : α → Outcome β} {l : List α} (h : ∀ i ∈ l, f i ≠ .reject) :
    l.mapM f = .fault ↔ ∃ i ∈ l, f i = .fault := by
  induction l with
  | nil => simp
  | cons i l ih =>
    have hl := ih fun j hj => h j (mem_cons_of_mem _ hj)
    rw [mapM_cons]
    cases hi : f i with
    | reject => exact absurd hi (h i mem_cons_self)
    | fault => simp [hi]
    | ok b =>
      rw [ok_bind, Outcome.bind_eq_fault, hl]
      simp [hi]

lemma mapM_eq_ok {f : α → Outcome β} {l : List α} (h : ∀ i ∈ l, ∃ b, f i = .ok b) :
    ∃ bs, l.mapM f = .ok bs := by
  induction l with
  | nil => exact ⟨[], rfl⟩
  | cons i l ih =>
    rcases h i mem_cons_self with ⟨b, hb⟩
    rcases ih fun j hj => h j (mem_cons_of_mem _ hj) with ⟨bs, hbs⟩
    refine ⟨b :: bs, ?_⟩
    rw [mapM_cons, hb, ok_bind, hbs, ok_bind]
    rfl

lemma length_of_mapM_eq_ok {f : α → Outcome β} {l : List α} {bs : List β}
    (h : l.mapM f = .ok bs) : bs.length = l.length := by
  induction l generalizing bs with
  | nil =>
    cases h
    rfl
  | cons i l ih =>
    rw [mapM_cons] at h
    rcases Outcome.bind_eq_ok.mp h with ⟨b, -, h⟩
    rcases Outcome.bind_eq_ok.mp h with ⟨bs', hbs', h⟩
    cases h
    rw [length_cons, length_cons, ih hbs']

end Steps

section Handlers

variable (data : List UInt8)

/-! ## Common forms -/

lemma parseDataobjCommonBool_ne_fault : parseDataobjCommonBool data ≠ .fault := by
  unfold parseDataobjCommonBool
  split_ifs <;> simp

lemma parseDataobjCommonByte_ne_fault : parseDataobjCommonByte data ≠ .fault := by
  unfold parseDataobjCommonByte
  split_ifs with h
  · simp
  · exact dataAt_ne_fault (by omega)

lemma parseDataobjCommonText_ne_fault : parseDataobjCommonText data ≠ .fault := by
  unfold parseDataobjCommonText
  split_ifs
  · simp
  · exact gTryMalloc_bind (heapString_ne_fault (by omega))

lemma parseDataobjCommonByteArray_ne_fault : parseDataobjCommonByteArray data ≠ .fault := by
  unfold parseDataobjCommonByteArray
  split_ifs
  · simp
  · exact gTryMalloc_bind (within_ne_fault le_rfl)

lemma parseCheckedArray_ne_fault (size : ℕ) : parseCheckedArray size data ≠ .fault := by
  unfold parseCheckedArray
  split_ifs
  · simp
  · exact store_ne_fault (by omega)

lemma nonemptyArray_ne_fault (size : ℕ) :
    (if data.length < 1 then .reject else parseCheckedArray size data) ≠ .fault := by
  split_ifs
  · simp
  · exact parseCheckedArray_ne_fault data size

lemma parseUncheckedArray_fault_iff (size : ℕ) (hsize : 0 < size) :
    parseUncheckedArray size data = .fault ↔ size < data.length := by
  unfold parseUncheckedArray
  split_ifs with h
  · simp
    omega
  · exact store_eq_fault_iff

lemma length_simExtractBcdNumber : (simExtractBcdNumber data).length = data.length * 2 := by
  unfold simExtractBcdNumber
  induction data with
  | nil => rfl
  | cons b l ih =>
    rw [flatMap_cons, length_append, ih, length_cons]
    simp only [length_cons, length_nil]
    omega

lemma parseBcdString_ne_fault : parseBcdString data ≠ .fault := by
  unfold parseBcdString
  split_ifs
  · simp
  · refine gTryMalloc_bind (dataAt_bind (by omega) fun tonNpi => ?_)
    refine readOctets_bind (by omega) fun digits hdigits => ?_
    refine bind_ne_fault (heapString_ne_fault ?_) fun number _ => ok_ne_fault _
    rw [length_simExtractBcdNumber, hdigits]
    omega

lemma restOnHeap_ne_fault {offset : ℕ} (h : offset ≤ data.length) :
    restOnHeap data offset ≠ .fault := by
  refine gTryMalloc_bind ?_
  rw [readOctets_eq (by omega)]
  simp

variable {i : ℕ}

lemma shortAt_ne_fault (h : i + 1 < data.length) : shortAt data i ≠ .fault :=
  dataAt_bind (by omega) fun _ => dataAt_bind h fun _ => ok_ne_fault _

lemma shortIf_ne_fault {present : Bool} (h : present = true → i + 1 < data.length) :
    shortIf present data i ≠ .fault := by
  unfold shortIf
  split_ifs with hp
  · exact shortAt_ne_fault data (h hp)
  · simp

lemma addressBytes_eq_fault_iff (size : ℕ) :
    addressBytes data size = .fault ↔ data.length < 1 + size := by
  unfold addressBytes
  by_cases h : 1 + size ≤ data.length
  · rw [readOctets_eq h, ok_bind]
    have hlen : 0 + ((data.drop 1).take size).length ≤ size := by
      rw [length_take]
      omega
    rcases Buf.write_eq_some (b := Buf.zero size) hlen with ⟨b, hb, -⟩
    rw [hb]
    simp
    omega
  · have hread : readOctets data 1 size = .fault := if_neg h
    rw [hread]
    simp
    omega

lemma parseTechnologyData_ne_fault : parseTechnologyData data ≠ .fault := by
  unfold parseTechnologyData
  split_ifs
  · simp
  · refine dataAt_bind (by omega) fun techId => ?_
    split_ifs
    · simp
    · exact bind_ne_fault (restOnHeap_ne_fault data (by omega)) fun _ _ => ok_ne_fault _

/-! ## Files -/

/-- How much longer a path can get below a file of the type. -/
def pathRoom (type : UInt8) : ℕ :=
  if type = 0x3f then 6 else if type = 0x7f then 4 else if type = 0x5f then 2 else 0

variable {lastType : UInt8}

lemma fileTypeAfter_cases {type : UInt8} (h : fileTypeAfter lastType type = true) :
    (type = 0x2f ∧ lastType = 0x3f) ∨ (type = 0x6f ∧ lastType = 0x7f) ∨ (type = 0x4f ∧
    lastType = 0x5f) ∨ (type = 0x7f ∧ lastType = 0x3f) ∨ (type = 0x5f ∧ lastType = 0x7f) := by
  unfold fileTypeAfter at h
  split at h
  · rename_i hcode
    exact .inl ⟨UInt8.toNat_inj.mp hcode, by simpa using h⟩
  · rename_i hcode
    exact .inr (.inl ⟨UInt8.toNat_inj.mp hcode, by simpa using h⟩)
  · rename_i hcode
    exact .inr (.inr (.inl ⟨UInt8.toNat_inj.mp hcode, by simpa using h⟩))
  · rename_i hcode
    exact .inr (.inr (.inr (.inl ⟨UInt8.toNat_inj.mp hcode, by simpa using h⟩)))
  · rename_i hcode
    exact .inr (.inr (.inr (.inr ⟨UInt8.toNat_inj.mp hcode, by simpa using h⟩)))
  · cases h

lemma pathRoom_of_fileTypeAfter {type : UInt8} (h : fileTypeAfter lastType type = true) :
    pathRoom type + 2 ≤ pathRoom lastType := by
  rcases fileTypeAfter_cases h with ⟨rfl, rfl⟩ | ⟨rfl, rfl⟩ | ⟨rfl, rfl⟩ | ⟨rfl, rfl⟩ | ⟨rfl, rfl⟩ <;>
    decide

variable {len : ℕ}

lemma filePathLength_le {n : ℕ} {l : List UInt8}
    (h : filePathLength lastType n l = some len) : len ≤ n + pathRoom lastType := by
  fun_induction filePathLength lastType n l with
  | case1 => cases h
  | case2 => cases h
  | case3 lastType n type b rest hnext helem =>
    cases h
    have hroom := pathRoom_of_fileTypeAfter hnext
    omega
  | case4 lastType n type b rest hnext helem ih =>
    have hroom := pathRoom_of_fileTypeAfter hnext
    have hle := ih h
    omega
  | case5 => cases h

lemma stkFileIterNext_le {l file rest : List UInt8} (h : stkFileIterNext l = some (file, rest)) :
    file.length ≤ 8 := by
  unfold stkFileIterNext at h
  split at h
  · cases h
  · split at h
    · cases h
    · rcases Option.map_eq_some_iff.mp h with ⟨len, hlen, heq⟩
      cases heq
      have hle : len ≤ 2 + 6 := filePathLength_le hlen
      rw [length_take]
      omega

lemma fileListLoop_ne_fault (l : List UInt8) : fileListLoop l ≠ .fault := by
  induction l using fileListLoop.induct with
  | case1 l h =>
    rw [fileListLoop, h]
    simp
  | case2 l file rest h ih =>
    rw [fileListLoop, h]
    refine store_bind (stkFileIterNext_le h) fun sf => ?_
    exact bind_ne_fault ih fun _ _ => ok_ne_fault _

lemma parseDataobjFileList_ne_fault : parseDataobjFileList data ≠ .fault := by
  unfold parseDataobjFileList
  split_ifs
  · simp
  · refine readOctets_bind (by omega) fun octets _ => ?_
    refine bind_ne_fault (fileListLoop_ne_fault octets) fun r _ => ?_
    dsimp only
    split_ifs <;> simp

lemma parseDataobjProvisioningFileReference_ne_fault :
    parseDataobjProvisioningFileReference data ≠ .fault := by
  unfold parseDataobjProvisioningFileReference
  split_ifs
  · simp
  · split
    · exact store_ne_fault (by omega)
    · simp

/-! ## Data objects -/

lemma parseDataobjAddress_ne_fault : parseDataobjAddress data ≠ .fault :=
  bind_ne_fault (parseBcdString_ne_fault data) fun _ _ => ok_ne_fault _

lemma parseDataobjSs_ne_fault : parseDataobjSs data ≠ .fault :=
  bind_ne_fault (parseBcdString_ne_fault data) fun _ _ => ok_ne_fault _

lemma parseDataobjAlphaId_ne_fault (g : GConvert) : parseDataobjAlphaId g data ≠ .fault := by
  unfold parseDataobjAlphaId
  split_ifs
  · simp
  · exact bind_ne_fault (simStringToUtf8_ne_fault g data) fun _ _ => ok_ne_fault _

lemma parseDataobjSubaddress_ne_fault : parseDataobjSubaddress data ≠ .fault := by
  unfold parseDataobjSubaddress
  split_ifs
  · simp
  · exact bind_ne_fault (parseCheckedArray_ne_fault data 23) fun _ _ => ok_ne_fault _

lemma parseDataobjDuration_ne_fault : parseDataobjDuration data ≠ .fault := by
  unfold parseDataobjDuration
  split_ifs
  · simp
  · refine dataAt_bind (by omega) fun unit => dataAt_bind (by omega) fun interval => ?_
    split_ifs <;> simp

lemma parseDataobjItem_ne_fault (g : GConvert) : parseDataobjItem g data ≠ .fault := by
  unfold parseDataobjItem
  split_ifs
  · simp
  · simp
  · refine dataAt_bind (by omega) fun id => ?_
    split_ifs
    · simp
    · refine readOctets_bind (by omega) fun octets _ => ?_
      exact bind_ne_fault (simStringToUtf8_ne_fault g octets) fun _ _ => ok_ne_fault _

lemma parseDataobjResult_ne_fault : parseDataobjResult data ≠ .fault := by
  unfold parseDataobjResult
  split_ifs
  · simp
  · refine dataAt_bind (by omega) fun type => ?_
    split_ifs
    · simp
    · exact bind_ne_fault (restOnHeap_ne_fault data (by omega)) fun _ _ => ok_ne_fault _

lemma parseDataobjText_ne_fault (g : GConvert) : parseDataobjText g data ≠ .fault := by
  unfold parseDataobjText
  split_ifs
  · simp
  · refine dataAt_bind (by omega) fun dcs => readOctets_bind (by omega) fun octets _ => ?_
    exact orReject_ne_fault _

lemma parseDataobjDefaultText_ne_fault (g : GConvert) :
    parseDataobjDefaultText g data ≠ .fault := by
  unfold parseDataobjDefaultText
  split_ifs
  · simp
  · refine dataAt_bind (by omega) fun dcs => readOctets_bind (by omega) fun octets _ => ?_
    exact orReject_ne_fault _

lemma parseDataobjUssd_ne_fault : parseDataobjUssd data ≠ .fault := by
  unfold parseDataobjUssd
  split_ifs
  · simp
  · refine dataAt_bind (by omega) fun dcs => readOctets_bind (by omega) fun octets hlen => ?_
    exact store_bind (by omega) fun _ => ok_ne_fault _

lemma parseDataobjLocationInfo_ne_fault : parseDataobjLocationInfo data ≠ .fault := by
  unfold parseDataobjLocationInfo
  split_ifs
  · simp
  · refine dataAt_bind (by omega) fun b₀ => dataAt_bind (by omega) fun b₁ =>
      dataAt_bind (by omega) fun b₂ => ?_
    refine bind_ne_fault (stringStore_ne_fault (by simp [simParseMccMnc])) fun mcc _ => ?_
    refine bind_ne_fault (stringStore_ne_fault (by simp [simParseMccMnc])) fun mnc _ => ?_
    refine bind_ne_fault (shortAt_ne_fault data (by omega)) fun lacTac _ => ?_
    refine bind_ne_fault (shortIf_ne_fault data fun h => ?_) fun ci _ => ?_
    · simp at h
      omega
    · refine bind_ne_fault (shortIf_ne_fault data fun h => ?_) fun extCi _ => ok_ne_fault _
      simp at h
      omega

lemma parseDataobjImei_ne_fault : parseDataobjImei data ≠ .fault := by
  unfold parseDataobjImei
  split_ifs
  · simp
  · refine dataAt_bind (by omega) fun b₀ => ?_
    split_ifs
    · simp
    · refine readOctets_bind (by omega) fun octets hlen => stringStore_ne_fault ?_
      rw [length_cons, Sms.extractBcdNumber_length]
      omega

lemma parseDataobjImeisv_ne_fault : parseDataobjImeisv data ≠ .fault := by
  unfold parseDataobjImeisv
  split_ifs
  · simp
  · refine dataAt_bind (by omega) fun b₀ => dataAt_bind (by omega) fun b₈ => ?_
    split_ifs
    · simp
    · simp
    · refine readOctets_bind (by omega) fun octets hlen => stringStore_ne_fault ?_
      rw [length_cons, length_append, Sms.extractBcdNumber_length, length_singleton]
      omega

lemma parseDataobjNetworkMeasurementResults_ne_fault :
    parseDataobjNetworkMeasurementResults data ≠ .fault := by
  unfold parseDataobjNetworkMeasurementResults
  split_ifs
  · simp
  · exact store_ne_fault (by omega)

lemma parseDataobjEventList_ne_fault : parseDataobjEventList data ≠ .fault := by
  unfold parseDataobjEventList
  split_ifs
  · simp
  · exact parseCheckedArray_ne_fault data 21

lemma parseDataobjCause_ne_fault : parseDataobjCause data ≠ .fault := by
  unfold parseDataobjCause
  split_ifs
  · simp
  · simp
  · exact store_bind (by omega) fun _ => ok_ne_fault _

lemma bcchChannelAt_eq (h : i < data.length * 8 / 10) :
    ∃ channel, bcchChannelAt data i = .ok channel := by
  have hhi : i * 10 / 8 < data.length := by omega
  have hlo : i * 10 / 8 + 1 < data.length := by omega
  unfold bcchChannelAt
  simp [dataAt_eq hhi, dataAt_eq hlo]

lemma parseDataobjBcchChannelList_fault_iff :
    parseDataobjBcchChannelList data = .fault ↔ 127 < data.length := by
  unfold parseDataobjBcchChannelList
  split_ifs with h
  · simp
    omega
  · rcases mapM_eq_ok fun i hi => bcchChannelAt_eq data (mem_range.mp hi) with
      ⟨channels, hmap⟩
    have hlen := length_of_mapM_eq_ok hmap
    rw [length_range] at hlen
    rw [hmap, ok_bind]
    split_ifs
    · simp
      omega
    · simp
      omega

lemma parseDataobjIconId_ne_fault : parseDataobjIconId data ≠ .fault := by
  unfold parseDataobjIconId
  split_ifs
  · simp
  · exact dataAt_bind (by omega) fun _ => dataAt_bind (by omega) fun _ => ok_ne_fault _

lemma parseDataobjResponseLen_ne_fault : parseDataobjResponseLen data ≠ .fault := by
  unfold parseDataobjResponseLen
  split_ifs
  · simp
  · exact dataAt_bind (by omega) fun _ => dataAt_bind (by omega) fun _ => ok_ne_fault _

lemma parseDataobjItemIconIdList_ne_fault : parseDataobjItemIconIdList data ≠ .fault := by
  unfold parseDataobjItemIconIdList
  split_ifs
  · simp
  · refine dataAt_bind (by omega) fun qualifier => readOctets_bind (by omega) fun octets hlen => ?_
    exact store_bind (by omega) fun _ => ok_ne_fault _

/-- The difference that is compared with 1 is of the size of an `unsigned int`, so a
count that does not fit is seen. -/
lemma cApduData_ne_fault (hle : data.length ≤ 241) : cApduData data ≠ .fault := by
  unfold cApduData
  split_ifs
  · refine dataAt_bind (by omega) fun lc => ?_
    dsimp only
    split_ifs with hlc hsub
    · simp
    · simp
    · have hfits : 5 + lc.toNat ≤ data.length := by
        unfold unsignedSub at hsub
        omega
      refine readOctets_bind hfits fun octets hlen => store_bind (by omega) fun _ => ok_ne_fault _
  · simp

lemma parseDataobjCApdu_ne_fault : parseDataobjCApdu data ≠ .fault := by
  unfold parseDataobjCApdu
  split_ifs
  · simp
  · refine dataAt_bind (by omega) fun cla => dataAt_bind (by omega) fun ins =>
      dataAt_bind (by omega) fun p1 => dataAt_bind (by omega) fun p2 => ?_
    refine bind_ne_fault (cApduData_ne_fault data (by omega)) fun r _ => ?_
    dsimp only
    split_ifs
    · exact dataAt_bind (by omega) fun _ => ok_ne_fault _
    · simp

lemma parseDataobjRApdu_ne_fault : parseDataobjRApdu data ≠ .fault := by
  unfold parseDataobjRApdu
  split_ifs
  · simp
  · refine dataAt_bind (by omega) fun sw1 => dataAt_bind (by omega) fun sw2 => ?_
    refine readOctets_bind (by omega) fun octets hlen => ?_
    exact store_bind (by omega) fun _ => ok_ne_fault _

lemma parseDataobjTimerValue_ne_fault : parseDataobjTimerValue data ≠ .fault := by
  unfold parseDataobjTimerValue
  split_ifs
  · simp
  · exact dataAt_bind (by omega) fun _ => dataAt_bind (by omega) fun _ =>
      dataAt_bind (by omega) fun _ => ok_ne_fault _

lemma parseDataobjDatetimeTimezone_ne_fault : parseDataobjDatetimeTimezone data ≠ .fault := by
  unfold parseDataobjDatetimeTimezone
  split_ifs
  · simp
  · refine readOctets_bind (by omega) fun octets _ => ?_
    split
    · simp
    · simp
    · rename_i hfault
      exact absurd hfault (smsDecodeScts_ne_fault octets [])

lemma parseDataobjBcRepeatIndicator_ne_fault : parseDataobjBcRepeatIndicator data ≠ .fault :=
  bind_ne_fault (parseDataobjCommonByte_ne_fault data) fun _ _ => ok_ne_fault _

lemma parseDataobjDtmfString_ne_fault : parseDataobjDtmfString data ≠ .fault := by
  unfold parseDataobjDtmfString
  split_ifs
  · simp
  · refine gTryMalloc_bind (heapString_ne_fault ?_)
    rw [length_simExtractBcdNumber]
    omega

lemma parseDataobjLanguage_ne_fault : parseDataobjLanguage data ≠ .fault := by
  unfold parseDataobjLanguage
  split_ifs
  · simp
  · exact stringStore_ne_fault (by omega)

lemma parseDataobjTimingAdvance_ne_fault : parseDataobjTimingAdvance data ≠ .fault := by
  unfold parseDataobjTimingAdvance
  split_ifs
  · simp
  · exact dataAt_bind (by omega) fun _ => dataAt_bind (by omega) fun _ => ok_ne_fault _

lemma parseDataobjBrowserId_ne_fault : parseDataobjBrowserId data ≠ .fault := by
  refine bind_ne_fault (parseDataobjCommonByte_ne_fault data) fun byte _ => ?_
  split_ifs <;> simp

lemma parseDataobjUrl_ne_fault : parseDataobjUrl data ≠ .fault := by
  unfold parseDataobjUrl
  split_ifs
  · simp
  · exact bind_ne_fault (parseDataobjCommonText_ne_fault data) fun _ _ => ok_ne_fault _

lemma parseDataobjBearerDescription_ne_fault : parseDataobjBearerDescription data ≠ .fault := by
  unfold parseDataobjBearerDescription
  split
  · simp
  · refine dataAt_bind (by omega) fun type => ?_
    split_ifs
    · simp
    · simp
    · exact dataAt_bind (by omega) fun _ => dataAt_bind (by omega) fun _ =>
        dataAt_bind (by omega) fun _ => dataAt_bind (by omega) fun _ =>
        dataAt_bind (by omega) fun _ => dataAt_bind (by omega) fun _ => ok_ne_fault _

lemma parseDataobjBufferSize_ne_fault : parseDataobjBufferSize data ≠ .fault := by
  unfold parseDataobjBufferSize
  split_ifs
  · simp
  · exact shortAt_ne_fault data (by omega)

lemma parseDataobjChannelStatus_ne_fault : parseDataobjChannelStatus data ≠ .fault := by
  unfold parseDataobjChannelStatus
  split_ifs
  · simp
  · exact readOctets_bind (by omega) fun octets hlen => store_ne_fault (by omega)

lemma parseDataobjOtherAddress_fault_iff :
    parseDataobjOtherAddress data = .fault ↔ data.length = 5 ∧ data.head? = some 0x57 := by
  unfold parseDataobjOtherAddress
  dsimp only
  cases data with
  | nil => simp
  | cons type rest =>
    rw [dataAt_eq (by simp)]
    split_ifs with hzero hlen
    · simp at hzero ⊢
      omega
    · simp at hlen ⊢
      omega
    · rw [ok_bind, getElem_cons_zero]
      split_ifs with h4 h6
      · subst h4
        simp [Outcome.bind_eq_fault, addressBytes_eq_fault_iff]
        simp at hzero hlen
        omega
      · subst h6
        simp [Outcome.bind_eq_fault, addressBytes_eq_fault_iff]
        simp at hzero hlen
        omega
      · simp [h6]

lemma parseDataobjUiccTeInterface_ne_fault : parseDataobjUiccTeInterface data ≠ .fault := by
  unfold parseDataobjUiccTeInterface
  dsimp only
  split_ifs
  · simp
  · refine dataAt_bind (by omega) fun protocol => ?_
    exact bind_ne_fault (shortAt_ne_fault data (by omega)) fun _ _ => ok_ne_fault _

lemma parseDataobjAid_ne_fault : parseDataobjAid data ≠ .fault := by
  unfold parseDataobjAid
  dsimp only
  split_ifs
  · simp
  · exact readOctets_bind (by omega) fun octets hlen => store_ne_fault (by omega)

lemma parseDataobjDisplayParameters_ne_fault : parseDataobjDisplayParameters data ≠ .fault := by
  unfold parseDataobjDisplayParameters
  split_ifs
  · simp
  · exact dataAt_bind (by omega) fun _ => dataAt_bind (by omega) fun _ =>
      dataAt_bind (by omega) fun _ => ok_ne_fault _

lemma parseDataobjServiceRecord_ne_fault : parseDataobjServiceRecord data ≠ .fault := by
  unfold parseDataobjServiceRecord
  split_ifs
  · simp
  · refine dataAt_bind (by omega) fun techId => dataAt_bind (by omega) fun servId => ?_
    exact bind_ne_fault (restOnHeap_ne_fault data (by omega)) fun _ _ => ok_ne_fault _

lemma parseDataobjRemoteEntityAddress_fault_iff :
    parseDataobjRemoteEntityAddress data = .fault ↔ data = [] := by
  unfold parseDataobjRemoteEntityAddress
  cases data with
  | nil => simp [dataAt]
  | cons codingType rest =>
    rw [dataAt_eq (by simp), ok_bind]
    split_ifs with h0 hlen h1 hlen
    · simp
    · simp at hlen
      simp [Outcome.bind_eq_fault, addressBytes_eq_fault_iff, hlen]
    · simp
    · simp at hlen
      simp [Outcome.bind_eq_fault, addressBytes_eq_fault_iff, hlen]
    · simp

lemma parseDataobjEsn_ne_fault : parseDataobjEsn data ≠ .fault := by
  unfold parseDataobjEsn
  split_ifs
  · simp
  · exact store_ne_fault (by omega)

/-- Each label puts as many octets into `decoded_apn` as it takes off the value, and the
last one has no dot behind it. -/
lemma apnLoop_ne_fault (decoded l : List UInt8) (hroom : l ≠ [] → decoded.length + l.length ≤ 100)
    (hend : decoded.length ≤ 99) : apnLoop decoded l ≠ .fault := by
  fun_induction apnLoop decoded l with
  | case1 decoded =>
    refine bind_ne_fault (within_ne_fault ?_) fun written _ => ok_ne_fault _
    rw [length_append, length_singleton]
    omega
  | case2 => simp
  | case3 decoded labelSize rest hsize ih₁ ih₂ =>
    have hsum := hroom (cons_ne_nil _ _)
    have hlabel : (decoded ++ rest.take labelSize.toNat).length = decoded.length + labelSize.toNat := by
      rw [length_append, length_take]
      omega
    have hleft : (rest.drop labelSize.toNat).length = rest.length - labelSize.toNat :=
      length_drop
    rw [length_cons] at hsum
    rw [within_eq (by omega), ok_bind]
    dsimp only
    split_ifs with hmore
    · have hdot : (decoded ++ rest.take labelSize.toNat ++ [0x2e]).length =
          decoded.length + labelSize.toNat + 1 := by
        rw [length_append, hlabel, length_singleton]
      rw [within_eq (by omega), ok_bind]
      exact ih₂ _ (fun _ => by omega) (by omega)
    · refine ih₁ _ (fun hne => ?_) (by omega)
      exact absurd (length_eq_zero_iff.mp (not_not.mp hmore)) hne

lemma parseDataobjNetworkAccessName_ne_fault : parseDataobjNetworkAccessName data ≠ .fault := by
  unfold parseDataobjNetworkAccessName
  split_ifs
  · simp
  · exact apnLoop_ne_fault [] data (fun _ => by simp; omega) (by simp)

lemma parseDataobjItemTextAttributeList_ne_fault :
    parseDataobjItemTextAttributeList data ≠ .fault := by
  unfold parseDataobjItemTextAttributeList
  split_ifs
  · simp
  · exact store_ne_fault (by omega)

/-- A value from the second octet on that goes to 126 octets, without a check. -/
lemma unchecked_fault_iff {β : Type} {f : Filled 126 → Outcome β} (hlen : 1 + len ≤ data.length)
    (hf : ∀ a, f a ≠ .fault) : (readOctets data 1 len >>= fun octets =>
    orFault (Filled.store 126 octets) >>= f) = .fault ↔ 126 < len := by
  rw [readOctets_eq hlen, ok_bind, Outcome.bind_eq_fault, store_eq_fault_iff,
    length_take, length_drop]
  constructor
  · rintro (h | ⟨a, -, h⟩)
    · omega
    · exact absurd h (hf a)
  · intro h
    left
    omega

lemma parseDataobjFrameLayout_fault_iff : parseDataobjFrameLayout data = .fault ↔ 127 <
    data.length % 256 ∧ (data.head? = some 0x01 ∨ data.head? = some 0x02) := by
  unfold parseDataobjFrameLayout
  dsimp only
  cases data with
  | nil => simp
  | cons layout rest =>
    rw [dataAt_eq (by simp), ok_bind, getElem_cons_zero, head?_cons]
    split_ifs with hlen hlayout
    · simp only [false_iff]
      omega
    · simp [hlayout]
    · rw [unchecked_fault_iff _ (by omega) fun _ => ok_ne_fault _]
      have hknown : layout = 0x01 ∨ layout = 0x02 := by
        by_contra hnot
        push Not at hnot
        exact hlayout hnot
      simp only [Option.some.injEq, hknown, and_true]
      omega

lemma parseDataobjBroadcastNetworkInfo_fault_iff : parseDataobjBroadcastNetworkInfo data = .fault ↔
    127 < data.length ∧ ∃ tech ∈ data.head?, tech ≤ 0x03 := by
  unfold parseDataobjBroadcastNetworkInfo
  cases data with
  | nil => simp
  | cons tech rest =>
    rw [dataAt_eq (by simp), ok_bind, getElem_cons_zero, head?_cons]
    split_ifs with hlen htech
    · simp only [false_iff]
      omega
    · have hnot : ¬ tech ≤ 0x03 := UInt8.not_le.mpr htech
      simp [hnot]
    · have hle : tech ≤ 0x03 := UInt8.not_lt.mp htech
      rw [unchecked_fault_iff _ (by omega) fun _ => ok_ne_fault _]
      simp only [Option.mem_def, Option.some.injEq, exists_eq_left', hle, and_true]
      omega

/-! ## Frames -/

lemma frameAt_ne_reject (i : ℕ) : frameAt data i ≠ .reject := by
  unfold frameAt dataAt
  cases data[i * 2 + 1]? with
  | none => simp
  | some height =>
    cases data[i * 2 + 2]? with
    | none => simp
    | some width =>
      simp only [orFault_some, ok_bind]
      split_ifs <;> simp

lemma frameAt_eq_ok_iff (i : ℕ) :
    (∃ frame, frameAt data i = .ok frame) ↔ i * 2 + 2 < data.length ∧ i < 63 := by
  unfold frameAt
  by_cases h : i * 2 + 2 < data.length
  · rw [dataAt_eq (show i * 2 + 1 < data.length by omega), ok_bind, dataAt_eq h,
      ok_bind]
    by_cases hi : i < 63 <;> simp [h, hi]
  · have hwidth : dataAt data (i * 2 + 2) = .fault := by
      unfold dataAt
      rw [getElem?_eq_none (by omega), orFault_none]
    rw [hwidth]
    cases dataAt data (i * 2 + 1) <;> simp [h]

/-- The loop runs over the octets of the value, two for each turn, and not over its
frames. -/
lemma frames_fault_iff (hlen : 0 < len) :
    (List.range len).mapM (frameAt data) = .fault ↔ ¬ (len * 2 < data.length ∧ len ≤ 63) := by
  rw [mapM_eq_fault_iff fun i _ => frameAt_ne_reject data i]
  constructor
  · rintro ⟨i, hi, hfault⟩ ⟨hread, hwrite⟩
    have hlt := mem_range.mp hi
    rcases (frameAt_eq_ok_iff data i).mpr ⟨by omega, by omega⟩ with ⟨frame, hok⟩
    rw [hok] at hfault
    cases hfault
  · intro h
    -- the last turn reads and writes furthest
    refine ⟨len - 1, mem_range.mpr (by omega), ?_⟩
    cases hlast : frameAt data (len - 1) with
    | fault => rfl
    | reject => exact absurd hlast (frameAt_ne_reject data _)
    | ok frame =>
      have hok := (frameAt_eq_ok_iff data (len - 1)).mp ⟨frame, hlast⟩
      omega

/-- The octets of a value for which the loop over the frames is entered. -/
def HasFrames (data : List UInt8) : Prop :=
  1 < data.length % 256 ∧ data.length % 256 % 2 = 1 ∧ ∃ id ∈ data.head?, id ≠ 0 ∧ id ≤ 0x0f

lemma parseDataobjFramesInfo_fault_iff : parseDataobjFramesInfo data = .fault ↔ HasFrames data ∧
    ¬ (data.length % 256 * 2 < data.length ∧ data.length % 256 ≤ 63) := by
  unfold parseDataobjFramesInfo HasFrames
  dsimp only
  cases data with
  | nil => simp
  | cons id rest =>
    rw [dataAt_eq (by simp), ok_bind, getElem_cons_zero, head?_cons]
    simp only [Option.mem_def, Option.some.injEq, exists_eq_left']
    split_ifs with hlen hid hzero hodd hone
    · simp only [false_iff]
      omega
    · have hnot : ¬ id ≤ 0x0f := UInt8.not_le.mpr hid
      simp [hnot]
    · simp only [false_iff]
      rintro ⟨⟨hlt, -, hne, -⟩, -⟩
      rcases hzero with ⟨h1, -⟩ | ⟨-, h0⟩
      · omega
      · exact hne h0
    · simp only [false_iff]
      omega
    · simp only [false_iff]
      omega
    · have hne : id ≠ 0 := fun h => hzero (.inr ⟨by omega, h⟩)
      have hle : id ≤ 0x0f := UInt8.not_lt.mp hid
      rw [Outcome.bind_eq_fault, frames_fault_iff _ (by omega)]
      constructor
      · rintro (h | ⟨list, hlist, h⟩)
        · exact ⟨⟨by omega, by omega, hne, hle⟩, h⟩
        · have hlength := length_of_mapM_eq_ok hlist
          rw [length_range] at hlength
          split_ifs at h with hfits
          refine ⟨⟨by omega, by omega, hne, hle⟩, ?_⟩
          omega
      · exact fun h => .inl h.2

lemma parseDataobjFrameId_ne_fault : parseDataobjFrameId data ≠ .fault := by
  unfold parseDataobjFrameId
  split_ifs
  · simp
  · refine dataAt_bind (by omega) fun id => ?_
    split_ifs <;> simp

lemma parseDataobjMeid_ne_fault : parseDataobjMeid data ≠ .fault := by
  unfold parseDataobjMeid
  split_ifs
  · simp
  · exact store_ne_fault (by omega)

lemma parseDataobjRegistryApplicationData_ne_fault (g : GConvert) :
    parseDataobjRegistryApplicationData g data ≠ .fault := by
  unfold parseDataobjRegistryApplicationData
  split_ifs
  · simp
  · refine dataAt_bind (by omega) fun dcs => readOctets_bind (by omega) fun octets _ => ?_
    refine bind_ne_fault (orReject_ne_fault _) fun name _ => ?_
    refine bind_ne_fault (shortAt_ne_fault data (by omega)) fun port _ => ?_
    exact dataAt_bind (by omega) fun type => ok_ne_fault _

lemma parseDataobjActivateDescriptor_ne_fault : parseDataobjActivateDescriptor data ≠ .fault := by
  unfold parseDataobjActivateDescriptor
  split_ifs
  · simp
  · refine dataAt_bind (by omega) fun byte => ?_
    split_ifs <;> simp

/-- The values on which the handler of the type stays inside of the value and of its
destination. -/
def StaysInside (type : DataObjectType) (data : List UInt8) : Prop :=
  match type with
  | .bcchChannelList | .cardReaderId | .mmsReference | .mmsId | .mmsTransferStatus
  | .mmsContentId => data.length ≤ 127
  | .broadcastNetworkInfo => data.length ≤ 127 ∨ ∀ tech ∈ data.head?, 0x03 < tech
  | .frameLayout =>
    data.length % 256 ≤ 127 ∨ data.head? ≠ some 0x01 ∧ data.head? ≠ some 0x02
  | .framesInfo => HasFrames data → data.length % 256 * 2 < data.length ∧ data.length % 256 ≤ 63
  | .otherAddress => ¬ (data.length = 5 ∧ data.head? = some 0x57)
  | .remoteEntityAddress => data ≠ []
  | _ => True

variable {α : Type}

lemma into_eq_fault_iff {c : α → DataObject} {handler : List UInt8 → Outcome α} :
    into c handler data = .fault ↔ handler data = .fault := by
  unfold into
  rw [Outcome.bind_eq_fault]
  simp

lemma into_inside {c : α → DataObject} {handler : List UInt8 → Outcome α}
    (h : handler data ≠ .fault) : into c handler data ≠ .fault ↔ True :=
  iff_true_intro (mt (into_eq_fault_iff data).mp h)

lemma into_inside_iff {c : α → DataObject} {handler : List UInt8 → Outcome α} {P Q : Prop}
    (h : handler data = .fault ↔ P) (hPQ : ¬ P ↔ Q) : into c handler data ≠ .fault ↔ Q := by
  rw [Ne, into_eq_fault_iff, h, hPQ]

lemma handlerForType_inside_iff (g : GConvert) (type : DataObjectType) (handler : DataobjHandler)
    (hhandler : handlerForType g type = some handler) :
    handler data ≠ .fault ↔ StaysInside type data := by
  cases type <;> cases hhandler
  case bcchChannelList =>
    exact into_inside_iff data (parseDataobjBcchChannelList_fault_iff data) Nat.not_lt
  case cardReaderId | mmsReference | mmsId | mmsTransferStatus | mmsContentId =>
    exact into_inside_iff data (parseUncheckedArray_fault_iff data 127 (by decide)) Nat.not_lt
  case broadcastNetworkInfo =>
    refine into_inside_iff data (parseDataobjBroadcastNetworkInfo_fault_iff data) ?_
    simp only [StaysInside, not_and_or, not_exists, not_lt, UInt8.not_le, imp_iff_not_or]
  case frameLayout =>
    refine into_inside_iff data (parseDataobjFrameLayout_fault_iff data) ?_
    simp only [StaysInside, not_and_or, not_or, not_lt]
  case framesInfo =>
    refine into_inside_iff data (parseDataobjFramesInfo_fault_iff data) ?_
    rw [not_and, not_not]
    exact Iff.rfl
  case otherAddress => exact into_inside_iff data (parseDataobjOtherAddress_fault_iff data) Iff.rfl
  case remoteEntityAddress =>
    exact into_inside_iff data (parseDataobjRemoteEntityAddress_fault_iff data) Iff.rfl
  all_goals apply into_inside
  case helpRequest | immediateResponse | lastEnvelope => exact parseDataobjCommonBool_ne_fault data
  case itemId | tone | locationStatus | cardReaderStatus | timerId | browserTerminationCause
      | channelDataLength | accessTechnology | utranMeasurementQualifier | networkSearchMode
      | batteryState => exact parseDataobjCommonByte_ne_fault data
  case atCommand | atResponse => exact parseDataobjCommonText_ne_fault data
  case callControlRequestedAction | bearer | channelData | serviceAvailability | cdmaSmsTpdu
      | browsingStatus | mmsNotification => exact parseDataobjCommonByteArray_ne_fault data
  case deviceFilter | serviceSearch | attributeInfo => exact parseTechnologyData_ne_fault data
  case textAttribute | pdpActivationParameter => exact parseCheckedArray_ne_fault data _
  case ccp | cbsPage | gsmSmsTpdu | itemsNextActionIndicator | transactionId | cardAtr =>
    exact nonemptyArray_ne_fault data _
  case address => exact parseDataobjAddress_ne_fault data
  case ssString => exact parseDataobjSs_ne_fault data
  case alphaId => exact parseDataobjAlphaId_ne_fault data g
  case subaddress => exact parseDataobjSubaddress_ne_fault data
  case duration => exact parseDataobjDuration_ne_fault data
  case item => exact parseDataobjItem_ne_fault data g
  case responseLength => exact parseDataobjResponseLen_ne_fault data
  case result => exact parseDataobjResult_ne_fault data
  case text => exact parseDataobjText_ne_fault data g
  case defaultText => exact parseDataobjDefaultText_ne_fault data g
  case ussdString => exact parseDataobjUssd_ne_fault data
  case fileList => exact parseDataobjFileList_ne_fault data
  case provisioningFileRef => exact parseDataobjProvisioningFileReference_ne_fault data
  case locationInfo => exact parseDataobjLocationInfo_ne_fault data
  case imei => exact parseDataobjImei_ne_fault data
  case imeisv => exact parseDataobjImeisv_ne_fault data
  case networkMeasurementResults => exact parseDataobjNetworkMeasurementResults_ne_fault data
  case eventList => exact parseDataobjEventList_ne_fault data
  case cause => exact parseDataobjCause_ne_fault data
  case iconId => exact parseDataobjIconId_ne_fault data
  case itemIconIdList => exact parseDataobjItemIconIdList_ne_fault data
  case cApdu => exact parseDataobjCApdu_ne_fault data
  case rApdu => exact parseDataobjRApdu_ne_fault data
  case timerValue => exact parseDataobjTimerValue_ne_fault data
  case datetimeTimezone => exact parseDataobjDatetimeTimezone_ne_fault data
  case bcRepeatIndicator => exact parseDataobjBcRepeatIndicator_ne_fault data
  case dtmfString => exact parseDataobjDtmfString_ne_fault data
  case language => exact parseDataobjLanguage_ne_fault data
  case timingAdvance => exact parseDataobjTimingAdvance_ne_fault data
  case browserId => exact parseDataobjBrowserId_ne_fault data
  case url => exact parseDataobjUrl_ne_fault data
  case bearerDescription => exact parseDataobjBearerDescription_ne_fault data
  case bufferSize => exact parseDataobjBufferSize_ne_fault data
  case channelStatus => exact parseDataobjChannelStatus_ne_fault data
  case uiccTeInterface => exact parseDataobjUiccTeInterface_ne_fault data
  case aid => exact parseDataobjAid_ne_fault data
  case displayParameters => exact parseDataobjDisplayParameters_ne_fault data
  case serviceRecord => exact parseDataobjServiceRecord_ne_fault data
  case esn => exact parseDataobjEsn_ne_fault data
  case networkAccessName => exact parseDataobjNetworkAccessName_ne_fault data
  case itemTextAttributeList => exact parseDataobjItemTextAttributeList_ne_fault data
  case frameId => exact parseDataobjFrameId_ne_fault data
  case meid => exact parseDataobjMeid_ne_fault data
  case registryApplicationData => exact parseDataobjRegistryApplicationData_ne_fault data g
  case activateDescriptor => exact parseDataobjActivateDescriptor_ne_fault data

end Handlers

/-! ## Lists -/

lemma collectItems_ne_fault (g : GConvert) (tlvs : List CompTlv) : collectItems g tlvs ≠ .fault := by
  induction tlvs with
  | nil => simp [collectItems]
  | cons tlv tlvs ih =>
    rw [collectItems]
    split
    · rename_i hfault
      exact absurd hfault (parseDataobjItem_ne_fault tlv.value g)
    · exact ih
    · refine bind_ne_fault ih fun r _ => ?_
      split_ifs <;> simp

lemma parseItemList_ne_fault (g : GConvert) (tlv : CompTlv) (rest : List UInt8) :
    parseItemList g tlv rest ≠ .fault := by
  refine bind_ne_fault (collectItems_ne_fault g _) fun r _ => ?_
  dsimp only
  split_ifs <;> simp

lemma parseProvisioningList_ne_fault (tlv : CompTlv) (rest : List UInt8) :
    parseProvisioningList tlv rest ≠ .fault := by
  unfold parseProvisioningList
  induction (tlvRun DataObjectType.provisioningFileRef.code tlv rest).1 with
  | nil => simp [collectFiles]
  | cons tlv tlvs ih =>
    rw [collectFiles]
    split
    · rename_i hfault
      exact absurd hfault (parseDataobjProvisioningFileReference_ne_fault tlv.value)
    · exact ih
    · exact bind_ne_fault ih fun _ _ => ok_ne_fault _

/-- Over any octets, the value of each TLV that the iterator delivers is a piece of them;
the handler of a type goes neither outside of that value nor of its destination exactly
for the values described, and the handlers of lists never do. -/
theorem handlers_inside_iff (g : GConvert) (os : List UInt8) (tlv : CompTlv) (rest : List UInt8)
    (h : Delivered os tlv rest) : (∃ before, os = before ++ (tlv.value ++ rest)) ∧ (∀ type handler,
    handlerForType g type = some handler → (handler tlv.value ≠ .fault ↔ StaysInside type
    tlv.value)) ∧ parseItemList g tlv rest ≠ .fault ∧ parseProvisioningList tlv rest ≠ .fault :=
  ⟨h.split, handlerForType_inside_iff tlv.value g, parseItemList_ne_fault g tlv rest,
    parseProvisioningList_ne_fault tlv rest⟩

/-- The identifier of a message in two octets. -/
theorem handlers_inside_iff_mmsId : Delivered [0x6B, 0x02, 0x31, 0x32] ⟨false, 0x6B, [0x31, 0x32]⟩
    [] ∧ into .array parseDataobjMmsId [0x31, 0x32] ≠ .fault := by
  have hdelivered : Delivered [0x6B, 0x02, 0x31, 0x32] ⟨false, 0x6B, [0x31, 0x32]⟩ [] :=
    .first (by decide)
  have hinside := (handlers_inside_iff Sms.ucs2Codec _ _ _ hdelivered).2.1 .mmsId _ rfl
  have hshort : ([0x31, 0x32] : List UInt8).length ≤ 127 := by decide
  exact ⟨hdelivered, hinside.mpr hshort⟩

/-- The information of two frames: the loop goes on to a third one and reads behind the
value. -/
theorem framesInfo_reads_outside :
    ¬ ∀ (g : GConvert) (os : List UInt8) (tlv : CompTlv) (rest : List UInt8), Delivered os tlv
    rest → ∀ type handler, handlerForType g type = some handler → handler tlv.value ≠ .fault := by
  intro h
  have hdelivered : Delivered [0x67, 0x05, 0x01, 0x02, 0x03, 0x04, 0x05]
      ⟨false, 0x67, [0x01, 0x02, 0x03, 0x04, 0x05]⟩ [] := .first (by decide)
  have hne := h Sms.ucs2Codec _ _ _ hdelivered .framesInfo _ rfl
  rw [Ne, into_eq_fault_iff, parseDataobjFramesInfo_fault_iff] at hne
  refine hne ⟨⟨by decide, by decide, 0x01, rfl, by decide, by decide⟩, by decide⟩

end Phonelets.Stk
