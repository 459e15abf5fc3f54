import Phonelets.Sms.TextPrepare

/-! # Texts come back

A text in the GSM alphabet is cut between septets of different characters, a text in UCS2
between pairs of octets; each piece is read back on its own, so the list of messages is
read back as the text.
-/

namespace Phonelets.Sms

open List Outcome
open Gsm (GsmDialect utf8 blank InDialects gsmOctets)
open Tlv (Element)

/-! ## UCS2 -/

/-- The text has no character outside of the basic plane. -/
def Basic (s : List Char) : Prop := ∀ c ∈ s, c.toNat < 0x10000

/-- UCS-2BE. -/
def ucs2be (s : List Char) : List UInt8 :=
  s.flatMap fun c => [UInt8.ofNat (c.toNat / 256), UInt8.ofNat c.toNat]

/-- `g_convert` is an exact codec on the texts that it accepts. -/
structure GConvert.Exact (g : GConvert) : Prop where
  toUcs2 : ∀ s out, g.utf8ToUcs2 (utf8 s) = some out → Basic s ∧ out = ucs2be s
  toUtf8 : ∀ s, Basic s → g.ucs2ToUtf8 (ucs2be s) = some (utf8 s)

/-- The characters of UCS-2BE. -/
def ucs2Chars : List UInt8 → List Char
  | a :: b :: l => Char.ofNat (a.toNat * 256 + b.toNat) :: ucs2Chars l
  | _ => []

def ucs2Codec : GConvert where
  utf8ToUcs2 l := (Gsm.utf8Chars l.length l).bind fun s =>
    if s.all fun c => c.toNat < 0x10000 then some (ucs2be s) else none
  ucs2ToUtf8 l := some (utf8 (ucs2Chars l))

variable {s : List Char}

lemma ucs2Chars_ucs2be (hs : Basic s) : ucs2Chars (ucs2be s) = s := by
  induction s with
  | nil => rfl
  | cons c s ih =>
    have hc : c.toNat < 0x10000 := hs c mem_cons_self
    have hcode : (UInt8.ofNat (c.toNat / 256)).toNat * 256 + (UInt8.ofNat c.toNat).toNat = c.toNat := by
      simp
      omega
    show Char.ofNat _ :: ucs2Chars (ucs2be s) = _
    rw [hcode, Char.ofNat_toNat, ih fun c hc => hs c (mem_cons_of_mem _ hc)]

lemma ucs2Codec_exact : ucs2Codec.Exact := by
  constructor
  · intro s out h
    simp only [ucs2Codec, Gsm.utf8Chars_utf8 s _ (Gsm.length_le_utf8 s), Option.bind_some] at h
    split at h
    · rename_i hall
      exact ⟨by simpa [Basic] using hall, (Option.some.inj h).symm⟩
    · simp at h
  · intro s hs
    exact congrArg (fun t => some (utf8 t)) (ucs2Chars_ucs2be hs)

lemma ucs2be_append (s t : List Char) : ucs2be (s ++ t) = ucs2be s ++ ucs2be t := by
  simp [ucs2be]

lemma length_ucs2be (s : List Char) : (ucs2be s).length = 2 * s.length := by
  induction s with
  | nil => rfl
  | cons c s ih =>
    rw [← singleton_append, ucs2be_append, length_append, ih]
    simp [ucs2be]
    omega

/-! ## Cuts -/

variable {locking single : GsmDialect} {offset : ℕ}

lemma getLast?_take_of_pos {l : List UInt8} {k : ℕ} (hpos : 0 < k) (hk : k ≤ l.length) :
    (l.take k).getLast? = l[k - 1]? := by
  rw [getLast?_eq_getElem?, length_take, Nat.min_eq_left hk, getElem?_take]
  simp [hpos]

/-- The chunks of a text in the GSM alphabet: at least one septet, no more than the capacity,
and no escape at the end. -/
lemma chunkLength_gsm (hs : InDialects locking single s) (hoffset : offset ≤ 100)
    (hne : gsmOctets locking single s ≠ []) :
    let k := chunkLength true offset (gsmOctets locking single s)
    0 < k ∧ k ≤ (gsmOctets locking single s).length ∧ k + (offset * 8 + 6) / 7 ≤ 160 ∧
      ((gsmOctets locking single s).take k).getLast? ≠ some 0x1b := by
  have hescape := fun k => Gsm.gsmOctets_escape hs (k := k)
  generalize gsmOctets locking single s = l at hne hescape
  have hlen : 0 < l.length := length_pos_iff.mpr hne
  have hcapacity : (smsTextCapacityGsm 160 offset).toNat = 160 - (offset * 8 + 6) / 7 := by
    unfold smsTextCapacityGsm
    omega
  unfold chunkLength
  simp only [if_true, hcapacity]
  generalize hchunk : min l.length (160 - (offset * 8 + 6) / 7) = chunk
  have hget : l[chunk - 1]? = some (l.getD (chunk - 1) 0) := by
    rw [getD_eq_getElem?_getD]
    rw [getElem?_eq_getElem (by omega)]
    rfl
  split
  · rename_i hlast
    rw [hlast] at hget
    rcases hescape _ hget with ⟨x, hx, hne⟩
    -- the other half is there, so it is the capacity that cuts the pair
    have hlt : chunk - 1 + 1 < l.length := by
      by_contra hge
      simp [getElem?_eq_none (Nat.not_lt.mp hge)] at hx
    refine ⟨by omega, by omega, by omega, ?_⟩
    rw [getLast?_take_of_pos (by omega) (by omega)]
    intro hprev
    rcases hescape _ hprev with ⟨y, hy, hyne⟩
    rw [show chunk - 1 - 1 + 1 = chunk - 1 by omega, hget] at hy
    exact hyne (Option.some.inj hy).symm
  · rename_i hlast
    refine ⟨by omega, by omega, by omega, ?_⟩
    rw [getLast?_take_of_pos (by omega) (by omega), hget]
    simpa using hlast

lemma cuts_gsm (hoffset : offset ≤ 100) :
    Cuts true offset (InDialects locking single) (gsmOctets locking single) := by
  constructor
  · intro s hs hnil
    exact Gsm.eq_nil_of_gsmOctets hs hnil
  · intro s hs hne
    rcases chunkLength_gsm hs hoffset hne with ⟨hpos, hle, hcap, hlast⟩
    rcases Gsm.gsmOctets_split hs hle hlast with ⟨s₁, s₂, rfl, htake, hdrop⟩
    refine ⟨s₁, s₂, rfl, htake, hdrop, fun c hc => hs c (by simp [hc]), fun c hc => hs c (by simp [hc]), ?_⟩
    have hs₁ : InDialects locking single s₁ := fun c hc => hs c (by simp [hc])
    have hlen : (gsmOctets locking single s₁).length =
        chunkLength true offset (gsmOctets locking single (s₁ ++ s₂)) := by
      rw [← htake, length_take, Nat.min_eq_left hle]
    refine ⟨fun _ => ⟨?_, Gsm.gsmOctets_lt hs₁⟩, ?_⟩
    · exact ne_nil_of_length_pos (by omega)
    · simp only [userDataLength, if_true]
      omega

lemma cuts_ucs2 (hoffset : offset ≤ 100) : Cuts false offset Basic ucs2be := by
  constructor
  · intro s _ hnil
    have hlen := length_ucs2be s
    rw [hnil] at hlen
    exact eq_nil_of_length_eq_zero (by simpa using hlen.symm)
  · intro s hs hne
    generalize hj : min s.length ((140 - offset) / 2) = j
    have hchunk : chunkLength false offset (ucs2be s) = (ucs2be (s.take j)).length := by
      simp only [chunkLength, Bool.false_eq_true, if_false, length_ucs2be, length_take]
      omega
    have hsplit : ucs2be s = ucs2be (s.take j) ++ ucs2be (s.drop j) := by
      rw [← ucs2be_append, take_append_drop]
    refine ⟨s.take j, s.drop j, (take_append_drop j s).symm, ?_, ?_,
      fun c hc => hs c (mem_of_mem_take hc), fun c hc => hs c (mem_of_mem_drop hc), ?_⟩
    · rw [hchunk, hsplit, take_left]
    · rw [hchunk, hsplit, drop_left]
    · refine ⟨fun h => by simp at h, ?_⟩
      simp only [userDataLength, Bool.false_eq_true, if_false, length_ucs2be, length_take]
      omega

/-! ## Reading the pieces -/

lemma eq_nul_of_mem_utf8EncodeChar {c : Char} (h : 0 ∈ String.utf8EncodeChar c) : c = '\x00' := by
  have hzero : ∀ n : ℕ, (0 : UInt8) = UInt8.ofNat n → n % 256 = 0 := by
    intro n hn
    simpa using (congrArg UInt8.toNat hn).symm
  unfold String.utf8EncodeChar at h
  dsimp only at h
  split at h
  · have hval := hzero _ (mem_singleton.mp h)
    apply Char.ext
    apply UInt32.toNat_inj.mp
    show c.val.toNat = 0
    omega
  · exfalso
    split at h
    · simp only [mem_cons, not_mem_nil, or_false] at h
      rcases h with h | h
      all_goals
        have := hzero _ h
        omega
    · split at h
      · simp only [mem_cons, not_mem_nil, or_false] at h
        rcases h with h | h | h
        all_goals
          have := hzero _ h
          omega
      · simp only [mem_cons, not_mem_nil, or_false] at h
        rcases h with h | h | h | h
        all_goals
          have := hzero _ h
          omega

lemma untilNul_utf8 (hs : '\x00' ∉ s) : CString.untilNul (utf8 s) = utf8 s := by
  apply CString.untilNul_of_no_nul
  intro hzero
  rcases mem_flatMap.mp hzero with ⟨c, hc, hmem⟩
  exact hs (eq_nul_of_mem_utf8EncodeChar hmem ▸ hc)

/-- What the loop of `sms_decode_text` appends for the message. -/
def Reads (g : GConvert) (sms : Sms) (s : List Char) : Prop :=
  ∃ converted, decodeFragment g sms = .ok converted ∧ CString.untilNul (converted.getD []) = utf8 s

variable {g : GConvert} {submit : SmsSubmit} {es : List Element} {s : List Char} {scAddr : SmsAddress}

lemma smsDecodeText_reads {l : List Sms} {texts : List (List Char)}
    (h : List.Forall₂ (Reads g) l texts) : smsDecodeText g l = .ok (utf8 texts.flatten) := by
  have hfold : ∀ str, l.foldlM (fun str sms => do return gStringAppend str (← decodeFragment g sms)) str =
      Outcome.ok (str ++ utf8 texts.flatten) := by
    induction h with
    | nil =>
      intro str
      simp [utf8]
    | cons hread _ ih =>
      intro str
      rcases hread with ⟨converted, hdecode, htext⟩
      rw [foldlM_cons, hdecode]
      refine Eq.trans (ih (gStringAppend str converted)) ?_
      rw [gStringAppend, htext, flatten_cons, Gsm.utf8_append, append_assoc]
  exact hfold []

lemma blank_ne_nul {c : Char} (hc : c ≠ '\x00') : blank c ≠ '\x00' := by
  unfold blank
  split
  · decide
  · exact hc

/-- A piece in the GSM alphabet is read in the dialects that its elements tell. -/
lemma reads_gsm (hcarries : Carries true submit es (gsmOctets locking single s)) (hfits : Fits true
    (header es).length (gsmOctets locking single s)) (hs : InDialects locking single s)
    (hnul : '\x00' ∉ s) (hshift : es.foldl languageVariantIe (0, 0) = (dialectOctet locking,
    dialectOctet single)) : Reads g ⟨scAddr, .submit submit⟩ (s.map blank) := by
  have hdialect : ∀ d, dialectOf (dialectOctet d) = d := by
    intro d
    cases d <;> rfl
  have hdecode : decodeFragment g ⟨scAddr, .submit submit⟩ = _ :=
    hcarries.decode_septets hfits (Gsm.getLast?_gsmOctets hs) hshift
  rw [hdialect, hdialect, Gsm.convertGsmToUtf8WithLang_gsmOctets hs] at hdecode
  refine ⟨_, hdecode, untilNul_utf8 ?_⟩
  intro hmem
  rcases mem_map.mp hmem with ⟨c, hc, hblank⟩
  exact blank_ne_nul (fun heq => hnul (heq ▸ hc)) hblank

lemma reads_ucs2 (hg : g.Exact) (hcarries : Carries false submit es (ucs2be s))
    (hfits : Fits false (header es).length (ucs2be s)) (hs : Basic s) (hnul : '\x00' ∉ s) :
    Reads g ⟨scAddr, .submit submit⟩ s := by
  refine ⟨_, hcarries.decode_ucs2 hfits (by rw [length_ucs2be]; omega), ?_⟩
  split
  · rename_i hnil
    have hlen := length_ucs2be s
    rw [hnil] at hlen
    obtain rfl : s = [] := eq_nil_of_length_eq_zero (by simpa using hlen.symm)
    rfl
  · rw [hg.toUtf8 s hs]
    exact untilNul_utf8 hnul

/-! ## The list of messages -/

variable {gsm use16bit : Bool} {ref : UInt16} {max : UInt8} {Coded : List Char → Prop}
  {enc : List Char → List UInt8} {submits : List SmsSubmit}

/-- The message in which a submit goes. -/
def messageOf (submit : SmsSubmit) : Sms := ⟨SmsAddress.zero, .submit submit⟩

variable {i : ℕ}

/-- What one message of the list carries: all of the text, or a piece of it and its number. -/
lemma SubmitsOf.get (h : SubmitsOf gsm es use16bit ref Coded enc s submits)
    (hi : submits[i]? = some submit) : ∃ es' chunk, Carries gsm submit es' chunk ∧
    Fits gsm (header es').length chunk ∧ (1 < submits.length → es' = es ++
    [concatenationElement use16bit ref (UInt8.ofNat submits.length) (UInt8.ofNat (i + 1))]) := by
  rcases h with ⟨all, rfl, hcarries, hfits⟩ | ⟨pieces, -, hfrags, hpieces⟩
  · have hmem := mem_of_getElem? hi
    obtain rfl := mem_singleton.mp hmem
    exact ⟨es, enc s, hcarries, hfits, fun hlen => by simp at hlen⟩
  · rcases hfrags.get hi with ⟨chunk, hchunk, hcarries⟩
    rcases mem_map.mp hchunk with ⟨p, hp, rfl⟩
    rw [Nat.zero_add] at hcarries
    refine ⟨_, _, hcarries, ?_, fun _ => rfl⟩
    rw [header_concatenation]
    simpa using (hpieces p hp).2

lemma Fragments.reads {seq : ℕ} {pieces : List (List Char)} (b : Char → Char) (h : Fragments gsm es
    use16bit ref max seq submits (pieces.map enc)) (hread : ∀ submit seq p, p ∈ pieces → Carries gsm
    submit (es ++ [concatenationElement use16bit ref max seq]) (enc p) → Reads g (messageOf submit)
    (p.map b)) : List.Forall₂ (Reads g) (submits.map messageOf) (pieces.map (List.map b)) := by
  induction pieces generalizing seq submits with
  | nil =>
    cases h
    exact List.Forall₂.nil
  | cons p pieces ih =>
    cases h with
    | cons hcarries hrest =>
      refine List.Forall₂.cons (hread _ _ p mem_cons_self hcarries) (ih hrest ?_)
      intro submit seq q hq
      exact hread submit seq q (mem_cons_of_mem p hq)

/-- The list is read as the text, if its messages are read as what they carry. -/
lemma SubmitsOf.decode (h : SubmitsOf gsm es use16bit ref Coded enc s submits) (hs : Coded s)
    (b : Char → Char) (hread : ∀ submit es' p, (es' = es ∨ ∃ max seq, es' = es ++
    [concatenationElement use16bit ref max seq]) → Coded p → (∀ c ∈ p, c ∈ s) → Carries gsm submit
    es' (enc p) → Fits gsm (header es').length (enc p) → Reads g (messageOf submit) (p.map b)) :
    smsDecodeText g (submits.map messageOf) = .ok (utf8 (s.map b)) := by
  rcases h with ⟨all, rfl, hcarries, hfits⟩ | ⟨pieces, rfl, hfrags, hpieces⟩
  · have hall := hread all es s (Or.inl rfl) hs (fun c hc => hc) hcarries hfits
    have hdecode := smsDecodeText_reads (List.Forall₂.cons hall List.Forall₂.nil)
    simpa using hdecode
  · have hreads := hfrags.reads (g := g) b (by
      intro submit seq p hp hcarries
      refine hread submit _ p (Or.inr ⟨_, seq, rfl⟩) (hpieces p hp).1
        (fun c hc => mem_flatten_of_mem hp hc) hcarries ?_
      rw [header_concatenation]
      simpa using (hpieces p hp).2)
    rw [smsDecodeText_reads hreads, map_flatten]

/-! ## The text -/

variable {dest : List UInt8} {useDeliveryReports : Bool} {alphabet : GsmDialect} {l : List Sms}

lemma appendLanguages_ok (locking single : GsmDialect) : ∃ ud₁ ud₂, appendDialect 0x24 single
    (Buf.zero 140) 0 = .ok (ud₁, (header (if single ≠ .default then [dialectElement 0x24 single]
    else [])).length) ∧ appendDialect 0x25 locking ud₁ (header (if single ≠ .default then
    [dialectElement 0x24 single] else [])).length = .ok (ud₂, (header (languageElements locking
    single)).length) ∧ HasElements ud₂ (languageElements locking single) := by
  rcases appendDialect_ok hasElements_zero 0x24 single (by simp [header, udhOctets, Tlv.encode, Tlv.Element.encode, dialectElement])
    with ⟨ud₁, happend₁, hud₁⟩
  rw [nil_append] at happend₁ hud₁
  have hfit : (header ((if single ≠ .default then [dialectElement 0x24 single] else []) ++
      [dialectElement 0x25 locking])).length ≤ 140 := by
    cases single <;> cases locking <;> decide
  rcases appendDialect_ok hud₁ 0x25 locking hfit with ⟨ud₂, happend₂, hud₂⟩
  exact ⟨ud₁, ud₂, happend₁, happend₂, hud₂⟩

lemma length_header_languageElements (locking single : GsmDialect) :
    (header (languageElements locking single)).length ≤ 7 := by
  cases locking <;> cases single <;> decide

lemma length_concatenationPrefix (locking single : GsmDialect) (use16bit : Bool) (ref : UInt16) :
    (concatenationPrefix (languageElements locking single) use16bit ref).length + 2 ≤ 100 := by
  cases locking <;> cases single <;> cases use16bit <;>
    simp [concatenationPrefix, concatenationKnown, languageElements, dialectElement, Tlv.encode,
      Tlv.Element.encode]

/-- The list that is prepared: submits of the text in dialects that have it, or in UCS2. -/
lemma smsTextPrepareWithAlphabet_submits (hg : g.Exact)
    (h : smsTextPrepareWithAlphabet g dest (utf8 s) ref use16bit useDeliveryReports alphabet = .ok l) :
    ∃ submits, l = submits.map messageOf ∧ 1 ≤ submits.length ∧ submits.length ≤ 255 ∧
      match Gsm.convertUtf8ToGsmBestLang (utf8 s) alphabet with
      | some (_, locking, single) => InDialects locking single s ∧
          SubmitsOf true (languageElements locking single) use16bit ref (InDialects locking single)
            (gsmOctets locking single) s submits
      | none => Basic s ∧ SubmitsOf false [] use16bit ref Basic ucs2be s submits := by
  unfold smsTextPrepareWithAlphabet at h
  rcases Outcome.bind_eq_ok.mp h with ⟨daddr, -, h⟩
  dsimp only at h
  cases hbest : Gsm.convertUtf8ToGsmBestLang (utf8 s) alphabet with
  | some r =>
    rcases r with ⟨gs, locking, single⟩
    simp only [hbest] at h
    rcases Gsm.convertUtf8ToGsmWithLang_eq_some (Gsm.convertUtf8ToGsmBestLang_eq_some hbest) with
      ⟨hin, rfl, hne⟩
    rcases appendLanguages_ok locking single with ⟨ud₁, ud₂, happend₁, happend₂, hud₂⟩
    rw [happend₁, ok_bind, happend₂, ok_bind] at h
    rcases Outcome.bind_eq_ok.mp h with ⟨submits, hsubmits, hl⟩
    rcases prepareSubmits_ok true _ (length_header_languageElements locking single)
      (cuts_gsm (length_concatenationPrefix locking single use16bit ref)) hin
      (fun _ => ⟨hne, Gsm.gsmOctets_lt hin⟩) rfl hud₂ hsubmits with ⟨hlo, hhi, hof⟩
    exact ⟨submits, (Outcome.ok.inj hl).symm, hlo, hhi, hin, hof⟩
  | none =>
    simp only [hbest] at h
    cases hconvert : g.utf8ToUcs2 (utf8 s) with
    | none => simp [hconvert] at h
    | some out =>
      rcases hg.toUcs2 s out hconvert with ⟨hbasic, rfl⟩
      rw [hconvert, orReject_some, ok_bind] at h
      rcases Outcome.bind_eq_ok.mp h with ⟨submits, hsubmits, hl⟩
      rcases prepareSubmits_ok false [] (by simp [header])
        (cuts_ucs2 (length_concatenationPrefix .default .default use16bit ref)) hbasic
        (fun hfalse => by simp at hfalse) rfl hasElements_zero hsubmits with ⟨hlo, hhi, hof⟩
      exact ⟨submits, (Outcome.ok.inj hl).symm, hlo, hhi, hbasic, hof⟩

/-- `SMS_IEI_CONCATENATED_8BIT` and `SMS_IEI_CONCATENATED_16BIT`. -/
def isConcatenation (e : Element) : Bool := e.tag == 0x00 || e.tag == 0x08

lemma filter_isConcatenation (locking single : GsmDialect) (use16bit : Bool) (ref : UInt16)
    (max seq : UInt8) : (languageElements locking single ++ [concatenationElement use16bit ref max
    seq]).filter isConcatenation = [concatenationElement use16bit ref max seq] := by
  cases locking <;> cases single <;> cases use16bit <;> rfl

lemma reference_octets (ref : UInt16) :
    ((ref &&& 0xff00) >>> 8).toUInt8.toUInt16 <<< 8 ||| (ref &&& 0xff).toUInt8.toUInt16 = ref := by
  apply UInt16.toNat_inj.mp
  have hlt : ref.toNat < 65536 := ref.toNat_lt
  have hlo : ref.toNat &&& 255 = ref.toNat % 256 := Nat.and_two_pow_sub_one_eq_mod ref.toNat 8
  have hhi : (ref.toNat &&& 65280) >>> 8 = ref.toNat / 256 := by
    have hmask : (ref.toNat >>> 8) &&& 255 = (ref.toNat >>> 8) % 256 :=
      Nat.and_two_pow_sub_one_eq_mod _ 8
    have hdiv : ref.toNat >>> 8 = ref.toNat / 256 := Nat.shiftRight_eq_div_pow _ 8
    rw [Nat.shiftRight_and_distrib, show 65280 >>> 8 = 255 from rfl, hmask, hdiv]
    omega
  rw [UInt16.toNat_or, UInt16.toNat_shiftLeft, UInt8.toNat_toUInt16, UInt16.toNat_toUInt8,
    UInt8.toNat_toUInt16, UInt16.toNat_toUInt8, UInt16.toNat_shiftRight, UInt16.toNat_and,
    UInt16.toNat_and]
  rw [show (0xff00 : UInt16).toNat = 65280 from rfl, show (0xff : UInt16).toNat = 255 from rfl,
    show (8 : UInt16).toNat % 16 = 8 from rfl, hhi, hlo, Nat.mod_eq_of_lt (show ref.toNat / 256 < 2 ^ 8 by omega),
    Nat.or_comm, Nat.mod_eq_of_lt (show (ref.toNat / 256) <<< 8 < 2 ^ 16 by
      rw [Nat.shiftLeft_eq]
      omega),
    Septets.or_shiftLeft (show ref.toNat % 256 % 2 ^ 8 < 2 ^ 8 by omega)]
  omega

/-- An element of concatenation tells the reference, the number of messages, and its own. -/
lemma concatenationIe_element (acc : Option (UInt16 × UInt8 × UInt8)) (use16bit : Bool) (ref : UInt16)
    {max seq : UInt8} (hseq : 1 ≤ seq) (hmax : seq ≤ max) :
    concatenationIe acc (concatenationElement use16bit ref max seq) =
      some (if use16bit then ref else ref &&& 0xff, max, seq) := by
  have hseq0 : ¬ seq = 0 := by
    rintro rfl
    exact absurd hseq (by decide)
  have hmax0 : ¬ max = 0 := by
    rintro rfl
    have := UInt8.le_iff_toNat_le.mp hmax
    exact hseq0 (UInt8.toNat_inj.mp (Nat.le_zero.mp this))
  have htests : ¬ (seq = 0 ∨ seq > max) := by
    rintro (heq | hgt)
    · exact hseq0 heq
    · exact absurd hmax (UInt8.not_le.mpr hgt)
  cases use16bit with
  | true =>
    have h16 : concatenationIe acc (concatenationElement true ref max seq) =
        if max = 0 then acc else if seq = 0 ∨ seq > max then acc
        else some (((ref &&& 0xff00) >>> 8).toUInt8.toUInt16 <<< 8 ||| (ref &&& 0xff).toUInt8.toUInt16,
          max, seq) := rfl
    rw [h16, if_neg hmax0, if_neg htests, reference_octets]
    rfl
  | false =>
    have h8 : concatenationIe acc (concatenationElement false ref max seq) =
        if max = 0 then acc else if seq = 0 ∨ seq > max then acc
        else some ((ref &&& 0xff).toUInt8.toUInt16, max, seq) := rfl
    have hlo : (ref &&& 0xff).toUInt8.toUInt16 = ref &&& 0xff := by
      apply UInt16.toNat_inj.mp
      rw [UInt8.toNat_toUInt16, UInt16.toNat_toUInt8, UInt16.toNat_and]
      have hle : ref.toNat &&& (0xff : UInt16).toNat ≤ 255 := Nat.and_le_right
      exact Nat.mod_eq_of_lt (by omega)
    rw [h8, if_neg hmax0, if_neg htests, hlo]
    rfl

lemma concatenation_numbers {n : ℕ} (hi : i < n) (hn : n ≤ 255) :
    1 ≤ UInt8.ofNat (i + 1) ∧ UInt8.ofNat (i + 1) ≤ UInt8.ofNat n := by
  have hbytes : ∀ n, n ≤ 255 → (UInt8.ofNat n).toNat = n := by
    intro n hn
    exact UInt8.toNat_ofNat_of_lt' (by unfold UInt8.size; omega)
  constructor
  · apply UInt8.le_iff_toNat_le.mpr
    rw [hbytes _ (by omega)]
    exact Nat.le_add_left 1 i
  · apply UInt8.le_iff_toNat_le.mpr
    rw [hbytes _ (by omega), hbytes _ (by omega)]
    exact hi

lemma foldl_concatenationIe (locking single : GsmDialect) (use16bit : Bool) (ref : UInt16)
    {max seq : UInt8} (hseq : 1 ≤ seq) (hmax : seq ≤ max) :
    (languageElements locking single ++ [concatenationElement use16bit ref max seq]).foldl
      concatenationIe none = some (if use16bit then ref else ref &&& 0xff, max, seq) := by
  have hlanguage : (languageElements locking single).foldl concatenationIe none = none := by
    cases locking <;> cases single <;> rfl
  rw [foldl_append, hlanguage, foldl_cons, foldl_nil]
  exact concatenationIe_element none use16bit ref hseq hmax

lemma SubmitsOf.messages
    (h : SubmitsOf gsm (languageElements locking single) use16bit ref Coded enc s submits)
    (hle : submits.length ≤ 255) {sms : Sms} (hi : (submits.map messageOf)[i]? = some sms) :
    smsUdlInBytes (smsExtractCommon sms).udl (smsExtractCommon sms).dcs ≤ 140 ∧
      (1 < submits.length →
        (informationElements sms).filter isConcatenation = [concatenationElement use16bit ref
          (UInt8.ofNat submits.length) (UInt8.ofNat (i + 1))] ∧
        smsExtractConcatenation sms = some (if use16bit then ref else ref &&& 0xff,
          UInt8.ofNat submits.length, UInt8.ofNat (i + 1))) := by
  rw [getElem?_map] at hi
  rcases Option.map_eq_some_iff.mp hi with ⟨submit, hsubmit, rfl⟩
  rcases h.get hsubmit with ⟨es', chunk, hcarries, hfits, hes⟩
  have helems := (hcarries.elements SmsAddress.zero hfits).1
  have hlt : i < submits.length := by
    by_contra hge
    simp [getElem?_eq_none (Nat.not_lt.mp hge)] at hsubmit
  constructor
  · rcases hfits.octets hcarries.udl with ⟨hbytes, hle⟩
    show smsUdlInBytes submit.udl submit.dcs ≤ 140
    rw [hcarries.dcs, hbytes]
    exact hle
  · intro hmany
    rcases concatenation_numbers hlt hle with ⟨hseq, hmax⟩
    rw [hes hmany] at helems
    change informationElements (messageOf submit) = _ at helems
    constructor
    · rw [helems, filter_isConcatenation]
    · rw [smsExtractConcatenation_eq, helems]
      exact foldl_concatenationIe locking single use16bit ref hseq hmax

/-- A fragment in the GSM alphabet tells the dialects, whether it is numbered or not. -/
lemma foldl_languageVariantIe (locking single : GsmDialect) {es' : List Element}
    (hes' : es' = languageElements locking single ∨
      ∃ max seq, es' = languageElements locking single ++ [concatenationElement use16bit ref max seq]) :
    es'.foldl languageVariantIe (0, 0) = (dialectOctet locking, dialectOctet single) := by
  have hlanguage : (languageElements locking single).foldl languageVariantIe (0, 0) =
      (dialectOctet locking, dialectOctet single) := by
    cases locking <;> cases single <;> rfl
  rcases hes' with rfl | ⟨max, seq, rfl⟩
  · exact hlanguage
  · rw [foldl_append, hlanguage]
    cases use16bit <;> rfl

/-- A text comes back from the messages that are prepared for it, each of which fits and
tells its number; the GSM alphabet loses the no-break space. -/
theorem sms_text_prepare_decode (hg : g.Exact) (hnul : '\x00' ∉ s) (h : smsTextPrepareWithAlphabet g
    dest (utf8 s) ref use16bit useDeliveryReports alphabet = .ok l) : (1 ≤ l.length ∧ l.length ≤
    255) ∧ (∀ sms ∈ l, smsUdlInBytes (smsExtractCommon sms).udl (smsExtractCommon sms).dcs ≤ 140) ∧
    (1 < l.length → ∀ i sms, l[i]? = some sms → (informationElements sms).filter isConcatenation =
    [concatenationElement use16bit ref (UInt8.ofNat l.length) (UInt8.ofNat (i + 1))] ∧
    smsExtractConcatenation sms = some (if use16bit then ref else ref &&& 0xff,
    UInt8.ofNat l.length, UInt8.ofNat (i + 1))) ∧ smsDecodeText g l = .ok (utf8
    (if (Gsm.convertUtf8ToGsmBestLang (utf8 s) alphabet).isSome then s.map blank else s)) := by
  rcases smsTextPrepareWithAlphabet_submits hg h with ⟨submits, rfl, hlo, hhi, hof⟩
  -- the numbers and the sizes are found in the same way in both alphabets
  have hmessages : ∀ i sms, (submits.map messageOf)[i]? = some sms →
      smsUdlInBytes (smsExtractCommon sms).udl (smsExtractCommon sms).dcs ≤ 140 ∧
      (1 < submits.length →
        (informationElements sms).filter isConcatenation = [concatenationElement use16bit ref
          (UInt8.ofNat submits.length) (UInt8.ofNat (i + 1))] ∧
        smsExtractConcatenation sms = some (if use16bit then ref else ref &&& 0xff,
          UInt8.ofNat submits.length, UInt8.ofNat (i + 1))) := by
    intro i sms hi
    split at hof
    · exact hof.2.messages hhi hi
    · have hof' : SubmitsOf false (languageElements .default .default) use16bit ref Basic ucs2be s submits :=
        hof.2
      exact hof'.messages hhi hi
  refine ⟨by rw [length_map]; exact ⟨hlo, hhi⟩, ?_, ?_, ?_⟩
  · intro sms hsms
    rcases mem_iff_getElem?.mp hsms with ⟨i, hi⟩
    exact (hmessages i sms hi).1
  · rw [length_map]
    intro hmany i sms hi
    exact (hmessages i sms hi).2 hmany
  · split at hof
    · rename_i gs locking single hbest
      rw [hbest]
      refine hof.2.decode hof.1 blank ?_
      intro submit es' p hes' hp hsub hcarries hfits
      exact reads_gsm hcarries hfits hp (fun hmem => hnul (hsub _ hmem))
        (foldl_languageVariantIe locking single hes')
    · rename_i hbest
      rw [hbest]
      have hdecode := hof.2.decode (g := g) hof.1 id (by
        intro submit es' p _ hp hsub hcarries hfits
        rw [map_id]
        exact reads_ucs2 hg hcarries hfits hp fun hmem => hnul (hsub _ hmem))
      rwa [map_id] at hdecode

/-- Seventy-one Cyrillic letters, one more than fit in a message. -/
theorem sms_text_prepare_decode_cyrillic : ∃ l, smsTextPrepareWithAlphabet ucs2Codec
    [0x2b, 0x34, 0x34] (utf8 (List.replicate 71 'ж')) 7 false false .default = .ok l ∧
    smsDecodeText ucs2Codec l = .ok (utf8 (List.replicate 71 'ж')) := by
  cases h : smsTextPrepareWithAlphabet ucs2Codec [0x2b, 0x34, 0x34] (utf8 (List.replicate 71 'ж')) 7
    false false .default with
  | ok l =>
    have hucs2 : Gsm.convertUtf8ToGsmBestLang (utf8 (List.replicate 71 'ж')) .default = none := by
      decide +kernel
    have hdecode := (sms_text_prepare_decode ucs2Codec_exact (by decide) h).2.2.2
    rw [hucs2] at hdecode
    exact ⟨l, rfl, hdecode⟩
  | reject => exact absurd h (by decide +kernel)
  | fault => exact absurd h (by decide +kernel)

end Phonelets.Sms
