import Phonelets.Sms.TextRoundTrip

/-! # Datagrams

`sms_datagram_prepare` puts a datagram for a port into one message, or cuts it up into
numbered ones; `sms_decode_datagram` puts it together again. The header has an element
for the ports and, behind it, one of concatenation.
-/

namespace Phonelets.Sms

open List Outcome
open Tlv (Element)
open Outcome (orFault)

/-! ## The functions -/

/-- The element for the ports: `ud[0] += len` and the assignments from `ud[offset]` on. -/
def appendPort (use16bitPort : Bool) (src dst : UInt16) (ud : Buf 140) (offset : ℕ) :
    Outcome (Buf 140 × ℕ) :=
  if use16bitPort then
    appendIe ud offset 6 [0x05, 4, ((dst &&& 0xff00) >>> 8).toUInt8, (dst &&& 0xff).toUInt8,
      ((src &&& 0xff00) >>> 8).toUInt8, (src &&& 0xff).toUInt8]
  else appendIe ud offset 4 [0x04, 2, (dst &&& 0xff).toUInt8, (src &&& 0xff).toUInt8]

/-- The loop `while (left > 0)`: the fragments, `seq`, and what is left. The loop ends in the
turn in which `seq` becomes 255; the first argument is `255 - seq`. -/
def datagramLoop (offset : ℕ) :
    ℕ → SmsSubmit → UInt8 → List UInt8 → Outcome (List SmsSubmit × UInt8 × List UInt8)
  | 0, _, seq, left => .ok ([], seq, left)
  | n + 1, template, seq, left =>
    if left.isEmpty then .ok ([], seq, left)
    else do
      let seq := seq + 1
      let chunk := min left.length (140 - offset)
      let template ← putFragment false template offset seq (left.take chunk)
      let r ← datagramLoop offset n template seq (left.drop chunk)
      return (template :: r.1, r.2)

/-- The rest of `sms_datagram_prepare`, once the element for the ports is in the header. -/
def datagramSubmits (data : List UInt8) (template : SmsSubmit) (offset : ℕ) (ref : UInt16)
    (use16bitRef : Bool) : Outcome (List SmsSubmit) := do
  if data.length ≤ 140 - offset then
    let template ← putText false template offset data
    return [template]
  else
    let (ud, offset) ← appendConcatenation use16bitRef ref template.ud offset
    let (submits, seq, left) ← datagramLoop offset 255 { template with ud := ud } 0 data
    if left.isEmpty then submits.mapM (patchMax offset seq) else .reject

def smsDatagramPrepare (dest data : List UInt8) (ref : UInt16) (use16bitRef : Bool)
    (src dst : UInt16) (use16bitPort useDeliveryReports : Bool) : Outcome (List Sms) := do
  let daddr ← smsAddressFromString dest
  let template : SmsSubmit :=
    { rd := false, rp := false, udhi := true, srr := useDeliveryReports, mr := 0, daddr := daddr,
      pid := 0, dcs := 0x04, vp := .relative 0xA7, udl := 0, ud := Buf.zero 140 }
  let (ud, offset) ← appendPort use16bitPort src dst template.ud 1
  let submits ← datagramSubmits data { template with ud := ud } offset ref use16bitRef
  return submits.map messageOf

/-- What `extract_app_port_common` writes. -/
structure AppPort where
  dst : ℕ
  src : ℕ
  is8bit : Bool

/-- A turn of the loop of `extract_app_port_common`: the last element that is usable counts. -/
def appPortIe (acc : Option AppPort) (e : Element) : Option AppPort :=
  match e.tag, e.value with
  | 0x04, [dst, src] =>
    if dst < 240 then acc
    else if src < 240 then acc
    else some ⟨dst.toNat, src.toNat, true⟩
  | 0x05, [dstHi, dstLo, srcHi, srcLo] =>
    let dst := dstHi.toNat <<< 8 ||| dstLo.toNat
    let src := srcHi.toNat <<< 8 ||| srcLo.toNat
    if dst > 49151 then acc
    else if src > 49151 then acc
    else some ⟨dst, src, false⟩
  | _, _ => acc

def smsExtractAppPort (sms : Sms) : Option AppPort :=
  match smsUdhIterInit sms with
  | none => none
  | some iter => iter.elements.foldl appPortIe none

/-- The octets of one message in the second loop of `sms_decode_datagram`. -/
def datagramPart (sms : Sms) : Outcome (List UInt8) :=
  let c := smsExtractCommon sms
  let taken := takenByHeader sms
  if c.udl.toNat < taken then .fault else readOctets c.ud taken (c.udl.toNat - taken)

/-- `sms_decode_datagram`. A length below zero is no size for `g_try_new` either. -/
def smsDecodeDatagram (smsList : List Sms) : Outcome (List UInt8) :=
  let len := (smsList.map fun sms => ((smsExtractCommon sms).udl.toNat : ℤ) - takenByHeader sms).sum
  if len ≤ 0 then .reject
  else do
    let parts ← smsList.mapM datagramPart
    return parts.flatten

/-! ## The elements -/

/-- The element for the ports. -/
def portElement (use16bitPort : Bool) (src dst : UInt16) : Element :=
  if use16bitPort then
    ⟨0x05, [((dst &&& 0xff00) >>> 8).toUInt8, (dst &&& 0xff).toUInt8,
      ((src &&& 0xff00) >>> 8).toUInt8, (src &&& 0xff).toUInt8], by simp⟩
  else ⟨0x04, [(dst &&& 0xff).toUInt8, (src &&& 0xff).toUInt8], by simp⟩

/-- A port that can be given in the form. -/
def PortInForm (use16bitPort : Bool) (port : UInt16) : Prop :=
  if use16bitPort then port.toNat ≤ 49151 else 240 ≤ port.toNat ∧ port.toNat ≤ 255

instance (use16bitPort : Bool) (port : UInt16) : Decidable (PortInForm use16bitPort port) :=
  inferInstanceAs (Decidable (ite _ _ _))

variable {use16bitPort use16bitRef : Bool} {src dst ref : UInt16}

lemma port_octets (port : UInt16) :
    ((port &&& 0xff00) >>> 8).toUInt8.toNat <<< 8 ||| (port &&& 0xff).toUInt8.toNat = port.toNat := by
  have h := congrArg UInt16.toNat (reference_octets port)
  have hlt : ((port &&& 0xff00) >>> 8).toUInt8.toNat <<< 8 < 2 ^ 16 := by
    have := ((port &&& 0xff00) >>> 8).toUInt8.toNat_lt
    rw [Nat.shiftLeft_eq]
    omega
  rw [UInt16.toNat_or, UInt16.toNat_shiftLeft, UInt8.toNat_toUInt16, UInt8.toNat_toUInt16,
    show (8 : UInt16).toNat % 16 = 8 from rfl, Nat.mod_eq_of_lt hlt] at h
  exact h

lemma low_octet {port : UInt16} (h : port.toNat ≤ 255) : (port &&& 0xff).toUInt8.toNat = port.toNat := by
  rw [UInt16.toNat_toUInt8, UInt16.toNat_and]
  have hmask : port.toNat &&& (0xff : UInt16).toNat = port.toNat % 256 :=
    Nat.and_two_pow_sub_one_eq_mod port.toNat 8
  rw [hmask]
  omega

lemma appPortIe_element (hsrc : PortInForm use16bitPort src) (hdst : PortInForm use16bitPort dst)
    (acc : Option AppPort) :
    appPortIe acc (portElement use16bitPort src dst) = some ⟨dst.toNat, src.toNat, !use16bitPort⟩ := by
  cases use16bitPort with
  | true =>
    have hsrc' : src.toNat ≤ 49151 := hsrc
    have hdst' : dst.toNat ≤ 49151 := hdst
    have h16 : appPortIe acc (portElement true src dst) =
        if ((dst &&& 0xff00) >>> 8).toUInt8.toNat <<< 8 ||| (dst &&& 0xff).toUInt8.toNat > 49151 then acc
        else if ((src &&& 0xff00) >>> 8).toUInt8.toNat <<< 8 ||| (src &&& 0xff).toUInt8.toNat > 49151
          then acc
        else some ⟨((dst &&& 0xff00) >>> 8).toUInt8.toNat <<< 8 ||| (dst &&& 0xff).toUInt8.toNat,
          ((src &&& 0xff00) >>> 8).toUInt8.toNat <<< 8 ||| (src &&& 0xff).toUInt8.toNat, false⟩ := rfl
    rw [h16, port_octets, port_octets, if_neg (by omega), if_neg (by omega)]
    rfl
  | false =>
    have hsrc' : 240 ≤ src.toNat ∧ src.toNat ≤ 255 := hsrc
    have hdst' : 240 ≤ dst.toNat ∧ dst.toNat ≤ 255 := hdst
    have h8 : appPortIe acc (portElement false src dst) =
        if (dst &&& 0xff).toUInt8 < 240 then acc
        else if (src &&& 0xff).toUInt8 < 240 then acc
        else some ⟨(dst &&& 0xff).toUInt8.toNat, (src &&& 0xff).toUInt8.toNat, true⟩ := rfl
    have hge : ∀ port : UInt16, 240 ≤ port.toNat → port.toNat ≤ 255 →
        ¬ (port &&& 0xff).toUInt8 < 240 := by
      intro port hlo hhi hlt
      have hlt' := UInt8.lt_iff_toNat_lt.mp hlt
      rw [low_octet hhi] at hlt'
      exact absurd hlt' (Nat.not_lt.mpr hlo)
    rw [h8, if_neg (hge dst hdst'.1 hdst'.2), if_neg (hge src hsrc'.1 hsrc'.2),
      low_octet hdst'.2, low_octet hsrc'.2]
    rfl

lemma appPortIe_concatenation (acc : Option AppPort) (max seq : UInt8) :
    appPortIe acc (concatenationElement use16bitRef ref max seq) = acc := by
  cases use16bitRef <;> rfl

lemma concatenationIe_port (acc : Option (UInt16 × UInt8 × UInt8)) :
    concatenationIe acc (portElement use16bitPort src dst) = acc := by
  cases use16bitPort <;> rfl

lemma length_header_port :
    (header [portElement use16bitPort src dst]).length = if use16bitPort then 7 else 5 := by
  cases use16bitPort <;> rfl

lemma appendPort_ok : ∃ ud, appendPort use16bitPort src dst (Buf.zero 140) 1 =
      .ok (ud, (header [portElement use16bitPort src dst]).length) ∧
    HasElements ud [portElement use16bitPort src dst] := by
  have hencode : (portElement use16bitPort src dst).encode =
      (portElement use16bitPort src dst).encode ++ List.replicate 0 0 := by simp
  have hfit : (header ([] ++ [portElement use16bitPort src dst])).length ≤ 140 := by
    rw [nil_append, length_header_port]
    split <;> decide
  rcases appendIe_ok hasElements_zero hencode hfit with ⟨ud, happend, hud⟩
  refine ⟨ud, ?_, hud⟩
  cases use16bitPort with
  | true => exact happend
  | false => exact happend

/-! ## Messages with octets -/

/-- The submit carries the elements and the octets. -/
structure CarriesData (submit : SmsSubmit) (es : List Element) (chunk : List UInt8) : Prop where
  udhi : submit.udhi = true
  dcs : submit.dcs = 4
  udl : submit.udl.toNat = (header es).length + chunk.length
  fits : (header es).length + chunk.length ≤ 140
  ud : ∃ junk, submit.ud.octets = header es ++ (chunk ++ junk)

variable {submit : SmsSubmit} {es : List Element} {chunk : List UInt8}

lemma smsUdlInBytes_data (udl : UInt8) : smsUdlInBytes udl 4 = udl.toNat := by
  simp [smsUdlInBytes]

lemma CarriesData.elements (h : CarriesData submit es chunk) (hes : es ≠ []) :
    (∃ iter, smsUdhIterInit (messageOf submit) = some iter ∧ iter.elements = es) ∧
      takenByHeader (messageOf submit) = (header es).length := by
  rcases h.ud with ⟨junk, hjunk⟩
  have hudl := h.udl
  have hfits := h.fits
  have hbytes : smsUdlInBytes submit.udl submit.dcs = (header es).length + chunk.length := by
    rw [h.dcs, smsUdlInBytes_data, hudl]
  have hlen : (header es).length = (Tlv.encode es).length + 1 := by
    rw [header_of_ne_nil hes]
    rfl
  rw [header_of_ne_nil hes] at hjunk
  have hinit := @smsUdhIterInit_header (messageOf submit) es (chunk ++ junk) h.udhi hes hjunk
    (by
      show _ ≤ smsUdlInBytes submit.udl submit.dcs
      rw [hbytes, header_of_ne_nil hes]
      exact Nat.le_add_right _ _)
    (by
      show smsUdlInBytes submit.udl submit.dcs ≤ submit.ud.octets.length
      rw [hbytes, submit.ud.length_eq]
      exact hfits)
    (by omega)
  rcases hinit with ⟨iter, hiter, hiterlen, helems⟩
  refine ⟨⟨iter, hiter, helems⟩, ?_⟩
  simp [takenByHeader, hiter, hiterlen, hlen]

lemma CarriesData.part (h : CarriesData submit es chunk) (hes : es ≠ []) : datagramPart
    (messageOf submit) = .ok chunk ∧ ((smsExtractCommon (messageOf submit)).udl.toNat : ℤ) -
    takenByHeader (messageOf submit) = chunk.length := by
  have htaken := (h.elements hes).2
  rcases h.ud with ⟨junk, hjunk⟩
  have hudl := h.udl
  have hfits := h.fits
  have hcommon : (smsExtractCommon (messageOf submit)).udl.toNat = (header es).length + chunk.length := hudl
  have hud : (smsExtractCommon (messageOf submit)).ud = submit.ud.octets := rfl
  constructor
  · unfold datagramPart
    dsimp only
    rw [htaken, hcommon, hud, if_neg (by omega), Nat.add_sub_cancel_left, readOctets,
      if_pos (by rw [submit.ud.length_eq]; exact hfits), hjunk, drop_left, take_left]
  · rw [hcommon, htaken]
    omega

/-- Numbered messages that carry the parts of a datagram. -/
inductive DataFragments (es : List Element) (use16bitRef : Bool) (ref : UInt16) (max : UInt8) :
    ℕ → List SmsSubmit → List (List UInt8) → Prop where
  | nil (seq : ℕ) : DataFragments es use16bitRef ref max seq [] []
  | cons {seq : ℕ} {submit : SmsSubmit} {submits : List SmsSubmit} {chunk : List UInt8}
      {chunks : List (List UInt8)}
      (hcarries : CarriesData submit
        (es ++ [concatenationElement use16bitRef ref max (UInt8.ofNat (seq + 1))]) chunk)
      (hrest : DataFragments es use16bitRef ref max (seq + 1) submits chunks) :
      DataFragments es use16bitRef ref max seq (submit :: submits) (chunk :: chunks)

variable {offset : ℕ}

lemma fits_octets {octets : List UInt8} (h : offset + octets.length ≤ 140) :
    Fits false offset octets := by
  refine ⟨fun h => by simp at h, ?_⟩
  simp only [userDataLength, Bool.false_eq_true, if_false]
  omega

lemma putFragment_data {template : SmsSubmit} {old : UInt8} {rest : List UInt8}
    (hudhi : template.udhi = true) (hdcs : template.dcs = 4) (hud : template.ud.octets =
    concatenationPrefix es use16bitRef ref ++ ([0, old] ++ rest)) (seq : UInt8) (hoffset : offset =
    (concatenationPrefix es use16bitRef ref).length + 2) (hfits : offset + chunk.length ≤ 140) :
    ∃ submit junk, putFragment false template offset seq chunk = .ok submit ∧ submit.udhi = true ∧
    submit.dcs = 4 ∧ submit.ud.octets = concatenationPrefix es use16bitRef ref ++
    ([0, seq] ++ (chunk ++ junk)) ∧ ∀ total, ∃ submit', patchMax offset total submit = .ok submit' ∧
    CarriesData submit' (es ++ [concatenationElement use16bitRef ref total seq]) chunk := by
  rcases putFragment_octets hud seq hoffset (fits_octets hfits) with ⟨udl, ud, junk, hput, hudl, hoct⟩
  refine ⟨{ template with udl := udl, ud := ud }, junk, hput, hudhi, hdcs, hoct, ?_⟩
  intro total
  have hoct₁ : ({ template with udl := udl, ud := ud } : SmsSubmit).ud.octets =
      concatenationPrefix es use16bitRef ref ++ (0 :: seq :: (payload false offset chunk ++ junk)) := hoct
  rcases patchMax_octets hoct₁ total hoffset with ⟨ud', hpatch, hoct'⟩
  have hheader : (header (es ++ [concatenationElement use16bitRef ref total seq])).length = offset :=
    length_header_concatenation hoffset total seq
  refine ⟨_, hpatch, hudhi, hdcs, ?_, ?_, junk, ?_⟩
  · rw [hheader, Nat.add_comm]
    exact hudl
  · rw [hheader]
    exact hfits
  · rw [header_concatenation]
    exact hoct'.trans (by simp [payload])

/-- A list is cut into parts of the capacity, at most `n` of them; the last one is perhaps
of less, and nothing is left over unless `n` parts are too few. -/
structure Cut (capacity n : ℕ) (left : List UInt8) (chunks : List (List UInt8)) (leftover : List UInt8) :
    Prop where
  split : left = chunks.flatten ++ leftover
  le : chunks.length ≤ n
  low : chunks.length * capacity < left.length + capacity
  high : leftover = [] → left.length ≤ chunks.length * capacity
  more : leftover ≠ [] → n * capacity < left.length

namespace Cut

variable {capacity n : ℕ} {left leftover : List UInt8} {chunks : List (List UInt8)}

lemma stop (hpos : 0 < capacity) (left : List UInt8) : Cut capacity 0 left [] left where
  split := rfl
  le := Nat.le_refl 0
  low := by
    rw [length_nil]
    omega
  high := by
    rintro rfl
    simp
  more := by
    intro hne
    simpa using length_pos_iff.mpr hne

lemma done (hpos : 0 < capacity) (n : ℕ) : Cut capacity n [] [] [] where
  split := rfl
  le := Nat.zero_le n
  low := by simpa using hpos
  high := by simp
  more := by simp

lemma turn (hnil : left ≠ []) {k : ℕ} (hk : min left.length capacity = k)
    (h : Cut capacity n (left.drop k) chunks leftover) :
    Cut capacity (n + 1) left (left.take k :: chunks) leftover := by
  have hpos := length_pos_iff.mpr hnil
  rcases h with ⟨hsplit, hle, hlow, hhigh, hmore⟩
  rw [length_drop] at hlow hhigh hmore
  constructor
  · rw [flatten_cons, append_assoc, ← hsplit, take_append_drop]
  · rw [length_cons]
    omega
  · rw [length_cons, Nat.succ_mul]
    rcases Nat.lt_or_ge left.length capacity with hlt | hge
    · -- with less than the capacity left there is no part after this one
      have hlt' : chunks.length * capacity < 1 * capacity := by omega
      have hlast : chunks.length = 0 :=
        Nat.lt_one_iff.mp (Nat.lt_of_mul_lt_mul_right hlt')
      rw [hlast]
      omega
    · omega
  · intro hdone
    have := hhigh hdone
    rw [length_cons, Nat.succ_mul]
    omega
  · intro hne
    have := hmore hne
    rw [Nat.succ_mul]
    omega

lemma count (h : Cut capacity n left chunks []) :
    (left.length + capacity - 1) / capacity = chunks.length := by
  have hlow := h.low
  have hhigh := h.high rfl
  apply Nat.div_eq_of_lt_le
  · omega
  · rw [Nat.succ_mul]
    omega

end Cut

lemma datagramLoop_ok (hoffset : offset = (concatenationPrefix es use16bitRef ref).length + 2)
    (hroom : offset < 140) (n : ℕ) (template : SmsSubmit) (hudhi : template.udhi = true)
    (hdcs : template.dcs = 4) (hud : ∃ old rest, template.ud.octets = concatenationPrefix es
    use16bitRef ref ++ ([0, old] ++ rest)) (seq : UInt8) (hn : seq.toNat + n = 255)
    (left : List UInt8) : ∃ submits chunks leftover, datagramLoop offset n template seq left =
    .ok (submits, UInt8.ofNat (seq.toNat + chunks.length), leftover) ∧ Cut (140 - offset) n left
    chunks leftover ∧ ∀ total, ∃ submits', submits.mapM (patchMax offset total) = .ok submits' ∧
    DataFragments es use16bitRef ref total seq.toNat submits' chunks := by
  have hcapacity : 0 < 140 - offset := by omega
  induction n generalizing template seq left with
  | zero =>
    exact ⟨[], [], left, by simp [datagramLoop], Cut.stop hcapacity left,
      fun total => ⟨[], rfl, DataFragments.nil _⟩⟩
  | succ n ih =>
    by_cases hnil : left = []
    · subst hnil
      exact ⟨[], [], [], by simp [datagramLoop], Cut.done hcapacity _,
        fun total => ⟨[], rfl, DataFragments.nil _⟩⟩
    · rcases seq_succ hn with ⟨hseq, hseq'⟩
      generalize hchunk : min left.length (140 - offset) = k
      rcases hud with ⟨old, rest, hud⟩
      have hfits : offset + (left.take k).length ≤ 140 := by
        rw [length_take]
        omega
      rcases putFragment_data hudhi hdcs hud (seq + 1) hoffset hfits with
        ⟨submit, junk, hput, hudhi', hdcs', hoct, hpatch⟩
      rcases ih submit hudhi' hdcs' ⟨_, _, hoct⟩ (seq + 1) (by omega) (left.drop k) with
        ⟨submits, chunks, leftover, hloop, hcut, hfrags⟩
      refine ⟨submit :: submits, left.take k :: chunks, leftover, ?_, hcut.turn hnil hchunk, ?_⟩
      · rw [datagramLoop]
        simp only [List.isEmpty_iff, hnil, if_false]
        rw [hchunk, hput, ok_bind, hloop]
        simp only [ok_bind, pure_eq_ok, hseq, length_cons]
        congr 4
        omega
      · intro total
        rcases hpatch total with ⟨submit', hsubmit', hcarries⟩
        rcases hfrags total with ⟨submits', hsubmits', hrest⟩
        refine ⟨submit' :: submits', ?_, ?_⟩
        · rw [mapM_cons, hsubmit', ok_bind, hsubmits']
          rfl
        · refine DataFragments.cons ?_ (hseq ▸ hrest)
          rw [hseq']
          exact hcarries

namespace DataFragments

variable {max : UInt8} {seq : ℕ} {submits : List SmsSubmit} {chunks : List (List UInt8)}

lemma length_eq (h : DataFragments es use16bitRef ref max seq submits chunks) :
    submits.length = chunks.length := by
  induction h with
  | nil => rfl
  | cons _ _ ih => simp [ih]

lemma get (h : DataFragments es use16bitRef ref max seq submits chunks) {i : ℕ} {submit : SmsSubmit}
    (hi : submits[i]? = some submit) : ∃ chunk, CarriesData submit
    (es ++ [concatenationElement use16bitRef ref max (UInt8.ofNat (seq + i + 1))]) chunk := by
  induction h generalizing i with
  | nil => simp at hi
  | @cons seq first submits chunk chunks hcarries _ ih =>
    cases i with
    | zero =>
      obtain rfl : first = submit := by simpa using hi
      exact ⟨chunk, hcarries⟩
    | succ i =>
      rcases ih (by simpa using hi) with ⟨chunk', hcarries'⟩
      refine ⟨chunk', ?_⟩
      rw [show seq + (i + 1) + 1 = seq + 1 + i + 1 by omega]
      exact hcarries'

lemma parts (h : DataFragments es use16bitRef ref max seq submits chunks) :
    (submits.map messageOf).mapM datagramPart = .ok chunks ∧ ((submits.map messageOf).map fun sms =>
    ((smsExtractCommon sms).udl.toNat : ℤ) - takenByHeader sms).sum = chunks.flatten.length := by
  induction h with
  | nil => exact ⟨rfl, rfl⟩
  | cons hcarries _ ih =>
    rcases ih with ⟨hparts, hsum⟩
    rcases hcarries.part (append_ne_nil_of_right_ne_nil es (cons_ne_nil _ _)) with ⟨hpart, hlen⟩
    constructor
    · rw [map_cons, mapM_cons, hpart, ok_bind, hparts]
      rfl
    · rw [map_cons, map_cons, sum_cons, hsum, hlen, flatten_cons, length_append]
      omega

end DataFragments

/-! ## A datagram and its messages -/

/-- How many messages a datagram of so many octets needs. -/
def datagramFragments (use16bitPort use16bitRef : Bool) (len : ℕ) : ℕ :=
  let offset := if use16bitPort then 7 else 5
  if len ≤ 140 - offset then 1
  else
    let chunk := 140 - (offset + if use16bitRef then 6 else 5)
    (len + chunk - 1) / chunk

variable {data : List UInt8} {template : SmsSubmit}

/-- The list carries the datagram: in one message, or in numbered parts. -/
inductive CarriesDatagram (es : List Element) (use16bitRef : Bool) (ref : UInt16) (data : List UInt8) :
    List SmsSubmit → Prop where
  | single {submit : SmsSubmit} (hcarries : CarriesData submit es data) :
      CarriesDatagram es use16bitRef ref data [submit]
  | several {submits : List SmsSubmit} {chunks : List (List UInt8)} (hmany : 1 < submits.length)
      (hsplit : data = chunks.flatten)
      (hfrags : DataFragments es use16bitRef ref (UInt8.ofNat submits.length) 0 submits chunks) :
      CarriesDatagram es use16bitRef ref data submits

/-- A datagram that fits behind the element for the ports goes in one message. -/
lemma datagramSubmits_single {es : List Element} (hudhi : template.udhi = true)
    (hdcs : template.dcs = 4) (hud : HasElements template.ud es) (ref : UInt16) (use16bitRef : Bool)
    (hle : (header es).length ≤ 140) (hone : data.length ≤ 140 - (header es).length) :
    ∃ submit, datagramSubmits data template (header es).length ref use16bitRef = .ok [submit] ∧
      CarriesData submit es data := by
  rcases hud.header with ⟨old, hold⟩
  have hfits : (header es).length + data.length ≤ 140 := by omega
  rcases putText_ok hold (fits_octets hfits) with ⟨udl, ud, junk, hput, hudl, hoct⟩
  refine ⟨{ template with udl := udl, ud := ud }, ?_, hudhi, hdcs, ?_, hfits, junk, hoct⟩
  · unfold datagramSubmits
    dsimp only
    rw [if_pos hone, hput]
    rfl
  · rw [Nat.add_comm]
    exact hudl

lemma datagramSubmits_several {es : List Element} {capacity : ℕ} (hudhi : template.udhi = true)
    (hdcs : template.dcs = 4) (hud : HasElements template.ud es) (ref : UInt16) (use16bitRef : Bool)
    (hle : (header es).length ≤ 7) (hcapacity : capacity =
    140 - ((concatenationPrefix es use16bitRef ref).length + 2)) (hroom : 0 < capacity)
    (hbig : capacity < data.length) (hone : ¬ data.length ≤ 140 - (header es).length) :
    (datagramSubmits data template (header es).length ref use16bitRef = .reject ∧
    255 < (data.length + capacity - 1) / capacity) ∨ ∃ submits, datagramSubmits data template
    (header es).length ref use16bitRef = .ok submits ∧ submits.length = (data.length + capacity - 1)
    / capacity ∧ submits.length ≤ 255 ∧ CarriesDatagram es use16bitRef ref data submits := by
  rcases appendConcatenation_ok hud use16bitRef ref hle with ⟨ud, happend, old, rest, hud'⟩
  rcases datagramLoop_ok rfl (by omega) 255 { template with ud := ud } hudhi hdcs ⟨old, rest, hud'⟩ 0 rfl
    data with ⟨submits, chunks, leftover, hloop, hcut, hfrags⟩
  rw [← hcapacity] at hcut
  unfold datagramSubmits
  dsimp only
  rw [if_neg hone, happend, ok_bind]
  dsimp only
  rw [hloop, ok_bind]
  dsimp only
  by_cases hleftover : leftover = []
  · right
    rw [hleftover] at hcut
    have hhigh := hcut.high rfl
    have hle := hcut.le
    have htwo : 1 < chunks.length := by
      by_contra hfew
      have : chunks.length * capacity ≤ 1 * capacity := Nat.mul_le_mul_right _ (Nat.not_lt.mp hfew)
      omega
    -- the loop leaves the number of parts open; it is patched into all of them at last
    rcases hfrags (UInt8.ofNat (0 + chunks.length)) with ⟨patched, hpatch, hdata⟩
    have hlen : patched.length = chunks.length := hdata.length_eq
    have hsplit : data = chunks.flatten := by simpa using hcut.split
    refine ⟨patched, ?_, by rw [hlen, hcut.count], by omega,
      CarriesDatagram.several (by omega) hsplit ?_⟩
    · rw [hleftover]
      exact hpatch
    · rw [hlen]
      rw [Nat.zero_add] at hdata
      exact hdata
  · left
    constructor
    · simp [hleftover]
    · have hmore := hcut.more hleftover
      have : 256 ≤ (data.length + capacity - 1) / capacity := by
        rw [Nat.le_div_iff_mul_le hroom]
        omega
      omega

/-- The list is refused just when the datagram needs too many messages; else it has as many
as are needed, which carry all of it. -/
lemma datagramSubmits_ok (hudhi : template.udhi = true) (hdcs : template.dcs = 4)
    (hud : HasElements template.ud [portElement use16bitPort src dst]) (ref : UInt16)
    (use16bitRef : Bool) : (datagramSubmits data template
    (header [portElement use16bitPort src dst]).length ref use16bitRef = .reject ∧
    255 < datagramFragments use16bitPort use16bitRef data.length) ∨ ∃ submits, datagramSubmits data
    template (header [portElement use16bitPort src dst]).length ref use16bitRef = .ok submits ∧
    submits.length = datagramFragments use16bitPort use16bitRef data.length ∧ submits.length ≤ 255 ∧
    CarriesDatagram [portElement use16bitPort src dst] use16bitRef ref data submits := by
  have hheader := @length_header_port use16bitPort src dst
  have hle : (header [portElement use16bitPort src dst]).length ≤ 7 := by
    rw [hheader]
    split <;> decide
  unfold datagramFragments
  dsimp only
  rw [← hheader]
  by_cases hone : data.length ≤ 140 - (header [portElement use16bitPort src dst]).length
  · right
    rcases datagramSubmits_single hudhi hdcs hud ref use16bitRef (by omega) hone with
      ⟨submit, hsubmits, hcarries⟩
    rw [if_pos hone]
    exact ⟨[submit], hsubmits, rfl, by simp, CarriesDatagram.single hcarries⟩
  · rw [if_neg hone]
    have htotal : (concatenationPrefix [portElement use16bitPort src dst] use16bitRef ref).length + 2 =
        (header [portElement use16bitPort src dst]).length + if use16bitRef then 6 else 5 := by
      rw [hheader]
      cases use16bitPort <;> cases use16bitRef <;> rfl
    have hroom : 0 < 140 - ((header [portElement use16bitPort src dst]).length +
          if use16bitRef then 6 else 5) ∧
        140 - ((header [portElement use16bitPort src dst]).length + if use16bitRef then 6 else 5) <
          data.length := by
      split <;> omega
    exact datagramSubmits_several hudhi hdcs hud ref use16bitRef hle (by rw [htotal]) hroom.1 hroom.2 hone

/-- What is found in a message with the element for the ports and perhaps another one. -/
lemma CarriesData.found {es' : List Element} (h : CarriesData submit (portElement use16bitPort src
    dst :: es') chunk) (hsrc : PortInForm use16bitPort src) (hdst : PortInForm use16bitPort dst) :
    (∃ m, (messageOf submit).message = .submit m ∧ m.udl.toNat ≤ 140) ∧ smsExtractAppPort
    (messageOf submit) = es'.foldl appPortIe (some ⟨dst.toNat, src.toNat, !use16bitPort⟩) ∧
    smsExtractConcatenation (messageOf submit) = es'.foldl concatenationIe none := by
  rcases (h.elements (cons_ne_nil _ _)).1 with ⟨iter, hiter, helems⟩
  refine ⟨⟨submit, rfl, ?_⟩, ?_, ?_⟩
  · rw [h.udl]
    exact h.fits
  · unfold smsExtractAppPort
    rw [hiter]
    dsimp only
    rw [helems, foldl_cons, appPortIe_element hsrc hdst]
  · unfold smsExtractConcatenation
    rw [hiter]
    dsimp only
    rw [helems, foldl_cons, concatenationIe_port]

lemma CarriesData.message (h : CarriesData submit [portElement use16bitPort src dst] data)
    (hdata : data ≠ []) (hsrc : PortInForm use16bitPort src) (hdst : PortInForm use16bitPort dst) :
    (∃ m, (messageOf submit).message = .submit m ∧ m.udl.toNat ≤ 140) ∧ smsExtractAppPort
    (messageOf submit) = some ⟨dst.toNat, src.toNat, !use16bitPort⟩ ∧ smsExtractConcatenation
    (messageOf submit) = none ∧ smsDecodeDatagram [messageOf submit] = .ok data := by
  have hpos := length_pos_iff.mpr hdata
  rcases h.found hsrc hdst with ⟨hudl, hport, hconcat⟩
  rcases h.part (cons_ne_nil _ _) with ⟨hpart, hlen⟩
  refine ⟨hudl, hport, hconcat, ?_⟩
  unfold smsDecodeDatagram
  simp only [map_cons, map_nil, sum_cons, sum_nil, hlen]
  rw [if_neg (by omega), mapM_cons, hpart]
  simp

lemma DataFragments.message {max : UInt8} {submits : List SmsSubmit} {chunks : List (List UInt8)}
    (h : DataFragments [portElement use16bitPort src dst] use16bitRef ref max 0 submits chunks)
    (hsrc : PortInForm use16bitPort src) (hdst : PortInForm use16bitPort dst) {i : ℕ}
    {submit : SmsSubmit} (hsubmit : submits[i]? = some submit) : (∃ m, (messageOf submit).message =
    .submit m ∧ m.udl.toNat ≤ 140) ∧ smsExtractAppPort (messageOf submit) =
    some ⟨dst.toNat, src.toNat, !use16bitPort⟩ ∧ smsExtractConcatenation (messageOf submit) =
    concatenationIe none (concatenationElement use16bitRef ref max (UInt8.ofNat (i + 1))) := by
  rcases h.get hsubmit with ⟨chunk, hcarries⟩
  rw [singleton_append] at hcarries
  rcases hcarries.found hsrc hdst with ⟨hudl, hport, hconcat⟩
  refine ⟨hudl, ?_, ?_⟩
  · -- the element for the numbers says nothing of ports
    rw [hport, foldl_cons, foldl_nil, appPortIe_concatenation]
  · rw [hconcat, Nat.zero_add, foldl_cons, foldl_nil]

lemma datagramSubmits_messages (hdata : data ≠ []) (hsrc : PortInForm use16bitPort src)
    (hdst : PortInForm use16bitPort dst) {submits : List SmsSubmit} (hle : submits.length ≤ 255)
    (h : CarriesDatagram [portElement use16bitPort src dst] use16bitRef ref data submits) :
    (∀ sms ∈ submits.map messageOf, (∃ m, sms.message = .submit m ∧ m.udl.toNat ≤ 140) ∧
    smsExtractAppPort sms = some ⟨dst.toNat, src.toNat, !use16bitPort⟩) ∧
    (∀ i sms, (submits.map messageOf)[i]? = some sms → smsExtractConcatenation sms = if 1 <
    submits.length then some (if use16bitRef then ref else ref &&& 0xff, UInt8.ofNat submits.length,
    UInt8.ofNat (i + 1)) else none) ∧ smsDecodeDatagram (submits.map messageOf) = .ok data := by
  cases h with
  | @single submit hcarries =>
    rcases hcarries.message hdata hsrc hdst with ⟨hudl, hport, hconcat, hdecode⟩
    refine ⟨?_, ?_, hdecode⟩
    · intro sms hsms
      obtain rfl := mem_singleton.mp hsms
      exact ⟨hudl, hport⟩
    · intro i sms hsms
      obtain rfl := mem_singleton.mp (mem_of_getElem? hsms)
      exact hconcat
  | @several _ chunks hmany hsplit hfrags =>
    have hpos := length_pos_iff.mpr hdata
    refine ⟨?_, ?_, ?_⟩
    · intro sms hsms
      rcases mem_map.mp hsms with ⟨submit, hsubmit, rfl⟩
      rcases getElem?_of_mem hsubmit with ⟨i, hi⟩
      rcases hfrags.message hsrc hdst hi with ⟨hudl, hport, -⟩
      exact ⟨hudl, hport⟩
    · intro i sms hsms
      rw [getElem?_map] at hsms
      rcases Option.map_eq_some_iff.mp hsms with ⟨submit, hsubmit, rfl⟩
      rcases hfrags.message hsrc hdst hsubmit with ⟨-, -, hconcat⟩
      have hlt : i < submits.length := (List.getElem?_eq_some_iff.mp hsubmit).1
      rcases concatenation_numbers hlt hle with ⟨hseq, hmax⟩
      rw [hconcat, concatenationIe_element none use16bitRef ref hseq hmax, if_pos hmany]
    · rcases hfrags.parts with ⟨hparts, hsum⟩
      unfold smsDecodeDatagram
      dsimp only
      rw [hsum, ← hsplit, if_neg (by omega), hparts, hsplit]
      rfl

/-- A datagram is refused just when it needs more than 255 messages; else every message
fits, tells the ports and, when there is more than one, its number, and the messages
together are the datagram. -/
theorem sms_datagram_prepare_decode {dest : List UInt8} {daddr : SmsAddress}
    (hdest : smsAddressFromString dest = .ok daddr) (hdata : data ≠ [])
    (hsrc : PortInForm use16bitPort src) (hdst : PortInForm use16bitPort dst) (ref : UInt16)
    (use16bitRef useDeliveryReports : Bool) :
    let needed := datagramFragments use16bitPort use16bitRef data.length
    (255 < needed ∧ smsDatagramPrepare dest data ref use16bitRef src dst use16bitPort
        useDeliveryReports = .reject) ∨
      ∃ l, smsDatagramPrepare dest data ref use16bitRef src dst use16bitPort useDeliveryReports = .ok l ∧
        l.length = needed ∧ needed ≤ 255 ∧
        (∀ sms ∈ l, (∃ m, sms.message = .submit m ∧ m.udl.toNat ≤ 140) ∧
          smsExtractAppPort sms = some ⟨dst.toNat, src.toNat, !use16bitPort⟩) ∧
        (∀ i sms, l[i]? = some sms → smsExtractConcatenation sms =
          if 1 < needed then
            some (if use16bitRef then ref else ref &&& 0xff, UInt8.ofNat needed, UInt8.ofNat (i + 1))
          else none) ∧
        smsDecodeDatagram l = .ok data := by
  rcases appendPort_ok with ⟨ud, happend, hud⟩
  unfold smsDatagramPrepare
  rw [hdest, ok_bind]
  dsimp only
  rw [happend, ok_bind]
  dsimp only
  generalize htemplate : SmsSubmit.mk false false true useDeliveryReports 0 daddr 0 0x04
    (.relative 0xA7) 0 ud = template
  have hud' : HasElements template.ud [portElement use16bitPort src dst] := htemplate ▸ hud
  rcases datagramSubmits_ok (by rw [← htemplate]) (by rw [← htemplate]) hud' ref use16bitRef with
    ⟨hreject, hmany⟩ | ⟨submits, hsubmits, hlen, hle, hcarry⟩
  · left
    rw [hreject]
    exact ⟨hmany, rfl⟩
  · right
    rw [hsubmits, ok_bind]
    rcases datagramSubmits_messages hdata hsrc hdst hle hcarry with ⟨hmessages, hnumbers, hdecode⟩
    rw [hlen] at hnumbers
    exact ⟨submits.map messageOf, rfl, by rw [length_map, hlen], hlen ▸ hle, hmessages, hnumbers,
      hdecode⟩

/-- 200 octets from port 9200 to port 2948, in two messages. -/
theorem sms_datagram_prepare_decode_two :
    ∃ l, smsDatagramPrepare [0x31, 0x32] (List.replicate 200 0xa5) 7 false 9200 2948 true false = .ok l ∧
      l.length = 2 ∧ smsDecodeDatagram l = .ok (List.replicate 200 0xa5) := by
  have hdest : smsAddressFromString [0x31, 0x32] =
      .ok ⟨.unknown, NumberingPlan.isdn, ⟨[0x31, 0x32], by decide, by decide⟩⟩ := by decide
  have hneeded : datagramFragments true false (List.replicate 200 (0xa5 : UInt8)).length = 2 := by
    rw [length_replicate]
    decide
  rcases sms_datagram_prepare_decode hdest (show List.replicate 200 (0xa5 : UInt8) ≠ [] by decide)
    (show PortInForm true 9200 by decide) (show PortInForm true 2948 by decide) 7 false false with
    ⟨hmany, -⟩ | ⟨l, hl, hlen, -, -, -, hdecode⟩
  · rw [hneeded] at hmany
    omega
  · exact ⟨l, hl, hlen.trans hneeded, hdecode⟩

end Phonelets.Sms
