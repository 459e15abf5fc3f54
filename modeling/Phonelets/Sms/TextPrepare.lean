import Phonelets.Sms.TextMessage

/-! # A text and its messages

`sms_text_prepare_with_alphabet` writes the language elements and the element of
concatenation into the user data of a template, cuts the text and puts each part behind
them. Every message carries its part (`Carries`), and the parts together are the text.
-/

namespace Phonelets.Sms

open List Outcome
open Gsm (GsmDialect utf8 blank)
open Tlv (Element)

/-! ## The elements -/

/-- The element for a dialect. -/
def dialectElement (iei : UInt8) (dialect : GsmDialect) : Element :=
  ⟨iei, [dialectOctet dialect], by simp⟩

/-- The elements for the dialects of a text. -/
def languageElements (locking single : GsmDialect) : List Element :=
  (if single ≠ .default then [dialectElement 0x24 single] else []) ++
    if locking ≠ .default then [dialectElement 0x25 locking] else []

/-- The element of the message `seq` of `max`, with the reference or its low octet. -/
def concatenationElement (use16bit : Bool) (ref : UInt16) (max seq : UInt8) : Element :=
  if use16bit then
    ⟨0x08, [((ref &&& 0xff00) >>> 8).toUInt8, (ref &&& 0xff).toUInt8, max, seq], by simp⟩
  else ⟨0x00, [(ref &&& 0xff).toUInt8, max, seq], by simp⟩

/-- What is known of the element of concatenation before the text is cut. -/
def concatenationKnown (use16bit : Bool) (ref : UInt16) : List UInt8 :=
  if use16bit then [0x08, 4, ((ref &&& 0xff00) >>> 8).toUInt8, (ref &&& 0xff).toUInt8]
  else [0x00, 3, (ref &&& 0xff).toUInt8]

/-- The header with an element of concatenation, up to `max`. -/
def concatenationPrefix (es : List Element) (use16bit : Bool) (ref : UInt16) : List UInt8 :=
  UInt8.ofNat ((Tlv.encode es).length + ((concatenationKnown use16bit ref).length + 2)) ::
    (Tlv.encode es ++ concatenationKnown use16bit ref)

lemma encode_concatenationElement (use16bit : Bool) (ref : UInt16) (max seq : UInt8) :
    (concatenationElement use16bit ref max seq).encode =
      concatenationKnown use16bit ref ++ [max, seq] := by
  cases use16bit <;> rfl

variable {es : List Element}

lemma header_of_ne_nil (h : es ≠ []) : header es = udhOctets es := by
  rcases exists_cons_of_ne_nil h with ⟨e, es', rfl⟩
  rfl

/-- `max` and `seq` are the last two octets of the header. -/
lemma header_concatenation (es : List Element) (use16bit : Bool) (ref : UInt16) (max seq : UInt8) :
    header (es ++ [concatenationElement use16bit ref max seq]) =
      concatenationPrefix es use16bit ref ++ [max, seq] := by
  have hencode : Tlv.encode (es ++ [concatenationElement use16bit ref max seq]) =
      Tlv.encode es ++ (concatenationKnown use16bit ref ++ [max, seq]) := by
    rw [Tlv.encode_append, Tlv.encode_cons, encode_concatenationElement]
    simp
  rw [header_of_ne_nil (append_ne_nil_of_right_ne_nil es (cons_ne_nil _ _)), udhOctets, hencode]
  simp [concatenationPrefix]

/-! ## Writing the header -/

/-- The template when the elements are in it: nothing is behind them yet. -/
def HasElements (ud : Buf 140) (es : List Element) : Prop :=
  ∃ z, ud.octets = udhOctets es ++ List.replicate z 0

lemma hasElements_zero : HasElements (Buf.zero 140) [] := ⟨139, rfl⟩

variable {ud : Buf 140}

lemma appendIe_ok (h : HasElements ud es) {e : Element} {known : List UInt8} {k : ℕ}
    (he : e.encode = known ++ List.replicate k 0) (hfit : (header (es ++ [e])).length ≤ 140) :
    ∃ ud', appendIe ud (header es).length e.encode.length known =
    .ok (ud', (header (es ++ [e])).length) ∧ HasElements ud' (es ++ [e]) := by
  rcases h with ⟨z, hz⟩
  rw [header_of_ne_nil (append_ne_nil_of_right_ne_nil es (cons_ne_nil _ _))] at hfit ⊢
  have hlen := ud.length_eq
  have hencode : e.encode.length = known.length + k := by simp [he]
  have htotal : (Tlv.encode (es ++ [e])).length = (Tlv.encode es).length + e.encode.length := by
    simp [Tlv.encode]
  simp only [hz, udhOctets, length_append, length_cons, length_replicate] at hlen hfit
  have hoffset : (if (header es).length = 0 then 1 else (header es).length) = (Tlv.encode es).length + 1 := by
    cases es with
    | nil => rfl
    | cons e' es' => rfl
  -- `ud[0]` counts the octets of the elements that are there
  have hget : ud.get 0 = UInt8.ofNat (Tlv.encode es).length := by simp [Buf.get, hz, udhOctets]
  -- the length octet, and the known octets over the zeros
  have hfirst : ud.octets =
      [] ++ ([UInt8.ofNat (Tlv.encode es).length] ++ (Tlv.encode es ++ List.replicate z 0)) := hz
  rcases Buf.write_append hfirst [ud.get 0 + UInt8.ofNat e.encode.length] rfl with ⟨ud₁, hw₁, hoct₁⟩
  have hz' : List.replicate z (0 : UInt8) =
      List.replicate known.length 0 ++ List.replicate (z - known.length) 0 := by
    rw [replicate_append_replicate]
    congr 1
    omega
  have hoct₁' : ud₁.octets = (UInt8.ofNat (Tlv.encode (es ++ [e])).length :: Tlv.encode es) ++
      (List.replicate known.length 0 ++ List.replicate (z - known.length) 0) := by
    rw [hoct₁, hget, ← UInt8.ofNat_add, ← htotal, hz']
    simp
  rcases Buf.write_append hoct₁' known (by simp) with ⟨ud₂, hw₂, hoct₂⟩
  refine ⟨ud₂, ?_, z - known.length - k, ?_⟩
  · unfold appendIe
    dsimp only
    rw [hoffset, show ud.write 0 _ = some ud₁ from hw₁]
    simp only [orFault_some, ok_bind]
    rw [show ud₁.write ((Tlv.encode es).length + 1) known = some ud₂ from hw₂]
    simp only [orFault_some, ok_bind, pure_eq_ok, udhOctets, length_cons, htotal]
    congr 2
    omega
  · -- what is not known of the element is among the zeros behind it
    have hrest : List.replicate (z - known.length) (0 : UInt8) =
        List.replicate k 0 ++ List.replicate (z - known.length - k) 0 := by
      rw [replicate_append_replicate]
      congr 1
      omega
    rw [hoct₂, hrest, udhOctets]
    simp [Tlv.encode_append, Tlv.encode_cons, he]

/-- The element of a dialect goes into the header unless the dialect is the default one. -/
lemma appendDialect_ok (h : HasElements ud es) (iei : UInt8)
    (used : GsmDialect) (hfit : (header (es ++ [dialectElement iei used])).length ≤ 140) :
    let es' := es ++ if used ≠ .default then [dialectElement iei used] else []
    ∃ ud', appendDialect iei used ud (header es).length = .ok (ud', (header es').length) ∧
      HasElements ud' es' := by
  unfold appendDialect
  by_cases hused : used = .default
  · exact ⟨ud, by simp [hused], by simpa [hused] using h⟩
  · have hencode : (dialectElement iei used).encode =
        [iei, 1, dialectOctet used] ++ List.replicate 0 0 := rfl
    rcases appendIe_ok h hencode hfit with ⟨ud', happend, hud'⟩
    have happend' : appendIe ud (header es).length 3 [iei, 1, dialectOctet used] =
        .ok (ud', (header (es ++ [dialectElement iei used])).length) := happend
    exact ⟨ud', by simpa [hused] using happend', by simpa [hused] using hud'⟩

lemma HasElements.header (h : HasElements ud es) : ∃ old, ud.octets = header es ++ old := by
  rcases h with ⟨z, hz⟩
  cases es with
  | nil => exact ⟨_, rfl⟩
  | cons e es => exact ⟨_, hz⟩

/-! ## Writing the text -/

variable {gsm : Bool} {chunk : List UInt8} {template : SmsSubmit}

lemma putText_ok {pre old : List UInt8} (h : template.ud.octets = pre ++ old) (hfits : Fits gsm
    pre.length chunk) : ∃ udl ud junk, putText gsm template pre.length chunk = .ok { template with
    udl := udl, ud := ud } ∧ udl.toNat = userDataLength gsm pre.length chunk ∧ ud.octets = pre ++
    (payload gsm pre.length chunk ++ junk) := by
  have hlength := hfits.length
  have hudl : (UInt8.ofNat (userDataLength gsm pre.length chunk)).toNat =
      userDataLength gsm pre.length chunk := by
    apply UInt8.toNat_ofNat_of_lt'
    unfold UInt8.size
    split at hlength <;> omega
  have hle := (hfits.octets hudl).2
  have hlen := template.ud.length_eq
  rw [h, length_append] at hlen
  have hsplit : template.ud.octets = pre ++ (old.take (payload gsm pre.length chunk).length ++
      old.drop (payload gsm pre.length chunk).length) := by
    rw [h, take_append_drop]
  rcases Buf.write_append hsplit (payload gsm pre.length chunk)
      (by rw [length_take]; omega) with ⟨ud, hwrite, hoct⟩
  refine ⟨_, ud, _, ?_, hudl, hoct⟩
  unfold putText
  cases gsm with
  | true =>
    rw [if_pos rfl]
    dsimp only
    rw [show template.ud.write pre.length ((Septets.pack7bitOwnBuf chunk pre.length false).getD []) =
      some ud from hwrite]
    rfl
  | false =>
    rw [if_neg (by simp)]
    rw [show template.ud.write pre.length chunk = some ud from hwrite]
    rfl

/-! ## Cutting the text -/

/-- Each submit carries the elements, one of concatenation with its number, and its part. -/
inductive Fragments (gsm : Bool) (es : List Element) (use16bit : Bool) (ref : UInt16) (max : UInt8) :
    ℕ → List SmsSubmit → List (List UInt8) → Prop where
  | nil (seq : ℕ) : Fragments gsm es use16bit ref max seq [] []
  | cons {seq : ℕ} {submit : SmsSubmit} {submits : List SmsSubmit} {chunk : List UInt8}
      {chunks : List (List UInt8)}
      (hcarries : Carries gsm submit
        (es ++ [concatenationElement use16bit ref max (UInt8.ofNat (seq + 1))]) chunk)
      (hrest : Fragments gsm es use16bit ref max (seq + 1) submits chunks) :
      Fragments gsm es use16bit ref max seq (submit :: submits) (chunk :: chunks)

/-- A coding of texts, the texts that have one, and the offset behind which `chunkLength`
cuts between two characters and takes at least one. -/
structure Cuts (gsm : Bool) (offset : ℕ) (Coded : List Char → Prop) (enc : List Char → List UInt8) :
    Prop where
  eq_nil : ∀ s, Coded s → enc s = [] → s = []
  cut : ∀ s, Coded s → enc s ≠ [] → ∃ s₁ s₂, s = s₁ ++ s₂ ∧
    (enc s).take (chunkLength gsm offset (enc s)) = enc s₁ ∧
    (enc s).drop (chunkLength gsm offset (enc s)) = enc s₂ ∧
    Coded s₁ ∧ Coded s₂ ∧ Fits gsm offset (enc s₁)

variable {offset : ℕ} {es : List Element} {use16bit : Bool} {ref : UInt16} {max : UInt8}
  {Coded : List Char → Prop} {enc : List Char → List UInt8}

/-- A template of the loop: any `seq`, and anything behind the header. -/
structure LoopTemplate (gsm : Bool) (es : List Element) (use16bit : Bool) (ref : UInt16) (max : UInt8)
    (template : SmsSubmit) : Prop where
  udhi : template.udhi = true
  dcs : template.dcs = if gsm then 0 else 8
  ud : ∃ seq rest, template.ud.octets = concatenationPrefix es use16bit ref ++ ([max, seq] ++ rest)

/-- The assignments of a turn of the loop: the number, and the part behind the header. -/
lemma putFragment_octets {template : SmsSubmit} {old : UInt8} {rest : List UInt8}
    (hud : template.ud.octets = concatenationPrefix es use16bit ref ++ ([max, old] ++ rest)) (seq : UInt8)
    (hoffset : offset = (concatenationPrefix es use16bit ref).length + 2)
    (hfits : Fits gsm offset chunk) :
    ∃ udl ud junk, putFragment gsm template offset seq chunk =
        .ok { template with udl := udl, ud := ud } ∧
      udl.toNat = userDataLength gsm offset chunk ∧
      ud.octets = concatenationPrefix es use16bit ref ++
        ([max, seq] ++ (payload gsm offset chunk ++ junk)) := by
  have hlen : (concatenationPrefix es use16bit ref ++ [max, old]).length = offset := by simp [hoffset]
  rw [← append_assoc] at hud
  rcases putText_ok hud (by rw [hlen]; exact hfits) with ⟨udl, ud, junk, hput, hudl, hoct⟩
  rw [hlen] at hput hudl hoct
  have hoct' : ud.octets = (concatenationPrefix es use16bit ref ++ [max]) ++
      ([old] ++ (payload gsm offset chunk ++ junk)) := by
    rw [hoct]
    simp
  rcases Buf.write_append hoct' [seq] rfl with ⟨ud', hwrite, hoct''⟩
  have hlast : (concatenationPrefix es use16bit ref ++ [max]).length = offset - 1 := by simp [hoffset]
  rw [hlast] at hwrite
  refine ⟨udl, ud', junk, ?_, hudl, hoct''.trans (by simp)⟩
  unfold putFragment
  rw [hput, ok_bind, hwrite]
  rfl

lemma length_header_concatenation (hoffset : offset = (concatenationPrefix es use16bit ref).length + 2)
    (max seq : UInt8) : (header (es ++ [concatenationElement use16bit ref max seq])).length = offset := by
  rw [header_concatenation, hoffset]
  simp

/-- A turn of the loop makes a submit, which is the template of the next turn. -/
lemma putFragment_ok (ht : LoopTemplate gsm es use16bit ref max template) (seq : UInt8)
    (hoffset : offset = (concatenationPrefix es use16bit ref).length + 2)
    (hfits : Fits gsm offset chunk) :
    ∃ submit, putFragment gsm template offset seq chunk = .ok submit ∧
      Carries gsm submit (es ++ [concatenationElement use16bit ref max seq]) chunk ∧
      LoopTemplate gsm es use16bit ref max submit := by
  rcases ht.ud with ⟨old, rest, hud⟩
  rcases putFragment_octets hud seq hoffset hfits with ⟨udl, ud, junk, hput, hudl, hoct⟩
  have hheader := length_header_concatenation hoffset max seq
  refine ⟨{ template with udl := udl, ud := ud }, hput, ?_, ?_⟩
  · constructor
    · rw [show ({ template with udl := udl, ud := ud } : SmsSubmit).udhi = true from ht.udhi]
      simp
    · exact ht.dcs
    · rw [hheader]
      exact hudl
    · refine ⟨junk, ?_⟩
      rw [hheader, header_concatenation]
      exact hoct.trans (by simp)
  · exact ⟨ht.udhi, ht.dcs, seq, payload gsm offset chunk ++ junk, hoct⟩

/-- `seq` does not wrap around, as the loop ends before. -/
lemma seq_succ {seq : UInt8} {n : ℕ} (hn : seq.toNat + (n + 1) = 255) :
    (seq + 1).toNat = seq.toNat + 1 ∧ UInt8.ofNat (seq.toNat + 1) = seq + 1 := by
  have hseq : (seq + 1).toNat = seq.toNat + 1 := by
    rw [UInt8.toNat_add]
    exact Nat.mod_eq_of_lt (by simp; omega)
  refine ⟨hseq, ?_⟩
  rw [← hseq]
  exact UInt8.ofNat_toNat

lemma fragmentLoop_ok (hcuts : Cuts gsm offset Coded enc)
    (hoffset : offset = (concatenationPrefix es use16bit ref).length + 2) (n : ℕ)
    (template : SmsSubmit) (ht : LoopTemplate gsm es use16bit ref max template) (seq : UInt8)
    (hn : seq.toNat + n = 255) (s : List Char) (hs : Coded s) :
    ∃ (submits : List SmsSubmit) (pieces : List (List Char)) (left : List Char),
      fragmentLoop gsm offset n template seq (enc s) =
          .ok (submits, UInt8.ofNat (seq.toNat + submits.length), enc left) ∧
        s = pieces.flatten ++ left ∧ Coded left ∧ submits.length ≤ n ∧
        Fragments gsm es use16bit ref max seq.toNat submits (pieces.map enc) ∧
        ∀ p ∈ pieces, Coded p ∧ Fits gsm offset (enc p) := by
  induction n generalizing template seq s with
  | zero =>
    exact ⟨[], [], s, by simp [fragmentLoop], rfl, hs, Nat.le_refl 0, Fragments.nil _, by simp⟩
  | succ n ih =>
    by_cases hnil : enc s = []
    · exact ⟨[], [], s, by simp [fragmentLoop, hnil], rfl, hs, Nat.zero_le _, Fragments.nil _, by simp⟩
    · rcases hcuts.cut s hs hnil with ⟨s₁, s₂, rfl, htake, hdrop, hs₁, hs₂, hfits⟩
      rcases seq_succ hn with ⟨hseq, hseq'⟩
      -- the submit of this turn is the template of the next one
      rcases putFragment_ok ht (seq + 1) hoffset hfits with ⟨submit, hput, hcarries, ht'⟩
      rcases ih submit ht' (seq + 1) (by omega) s₂ hs₂ with
        ⟨submits, pieces, left, hloop, hsplit, hleft, hle, hfrags, hpieces⟩
      refine ⟨submit :: submits, s₁ :: pieces, left, ?_, ?_, hleft, ?_, ?_, ?_⟩
      · rw [fragmentLoop]
        simp only [List.isEmpty_iff, hnil, if_false]
        rw [htake, hput, ok_bind, hdrop, hloop]
        simp only [ok_bind, pure_eq_ok, hseq, length_cons]
        congr 4
        omega
      · rw [hsplit]
        simp
      · rw [length_cons]
        omega
      · rw [map_cons]
        refine Fragments.cons ?_ (hseq ▸ hfrags)
        rw [hseq']
        exact hcarries
      · intro p hp
        rcases mem_cons.mp hp with rfl | hmem
        · exact ⟨hs₁, hfits⟩
        · exact hpieces p hmem

variable {submit : SmsSubmit}

lemma patchMax_octets {rest : List UInt8} (hud : submit.ud.octets = concatenationPrefix es
    use16bit ref ++ (max :: rest)) (total : UInt8) (hoffset : offset = (concatenationPrefix es
    use16bit ref).length + 2) : ∃ ud, patchMax offset total submit = .ok { submit with ud := ud } ∧
    ud.octets = concatenationPrefix es use16bit ref ++ (total :: rest) := by
  have hud' : submit.ud.octets = concatenationPrefix es use16bit ref ++ ([max] ++ rest) := hud
  rcases Buf.write_append hud' [total] rfl with ⟨ud, hwrite, hoct⟩
  refine ⟨ud, ?_, hoct⟩
  unfold patchMax
  rw [show offset - 2 = (concatenationPrefix es use16bit ref).length by omega, hwrite]
  rfl

/-- `max` is put in its place when the number of messages is known. -/
lemma patchMax_ok {seq : UInt8} (h : Carries gsm submit (es ++ [concatenationElement use16bit ref
    max seq]) chunk) (total : UInt8) (hoffset : offset = (concatenationPrefix es use16bit
    ref).length + 2) : ∃ submit', patchMax offset total submit = .ok submit' ∧
    Carries gsm submit' (es ++ [concatenationElement use16bit ref total seq]) chunk := by
  rcases h.ud with ⟨junk, hud⟩
  have hheader : ∀ m, (header (es ++ [concatenationElement use16bit ref m seq])).length = offset :=
    fun m => length_header_concatenation hoffset m seq
  rw [hheader, header_concatenation] at hud
  have hud' : submit.ud.octets = concatenationPrefix es use16bit ref ++
      (max :: seq :: (payload gsm offset chunk ++ junk)) := by
    rw [hud]
    simp
  rcases patchMax_octets hud' total hoffset with ⟨ud, hpatch, hoct⟩
  refine ⟨{ submit with ud := ud }, hpatch, ?_⟩
  constructor
  · rw [show ({ submit with ud := ud } : SmsSubmit).udhi = _ from h.udhi]
    cases es <;> rfl
  · exact h.dcs
  · rw [hheader, ← hheader max]
    exact h.udl
  · refine ⟨junk, ?_⟩
    rw [hheader, header_concatenation]
    exact hoct.trans (by simp)

variable {seq : ℕ} {submits : List SmsSubmit} {chunks : List (List UInt8)}

lemma Fragments.patch (h : Fragments gsm es use16bit ref max seq submits chunks) (total : UInt8)
    (hoffset : offset = (concatenationPrefix es use16bit ref).length + 2) :
    ∃ submits', submits.mapM (patchMax offset total) = .ok submits' ∧
      Fragments gsm es use16bit ref total seq submits' chunks := by
  induction h with
  | nil seq => exact ⟨[], rfl, Fragments.nil seq⟩
  | cons hcarries _ ih =>
    rcases patchMax_ok hcarries total hoffset with ⟨submit', hpatch, hcarries'⟩
    rcases ih with ⟨submits', hmap, hfrags⟩
    refine ⟨submit' :: submits', ?_, Fragments.cons hcarries' hfrags⟩
    rw [mapM_cons, hpatch, ok_bind, hmap]
    rfl

lemma Fragments.length_eq
    (h : Fragments gsm es use16bit ref max seq submits chunks) : submits.length = chunks.length := by
  induction h with
  | nil => rfl
  | cons _ _ ih => simp [ih]

lemma Fragments.get (h : Fragments gsm es use16bit ref max seq submits chunks) {i : ℕ}
    (hi : submits[i]? = some submit) : ∃ chunk ∈ chunks, Carries gsm submit
    (es ++ [concatenationElement use16bit ref max (UInt8.ofNat (seq + i + 1))]) chunk := by
  induction h generalizing i with
  | nil => simp at hi
  | @cons seq first submits chunk chunks hcarries _ ih =>
    cases i with
    | zero =>
      obtain rfl : first = submit := by simpa using hi
      exact ⟨chunk, mem_cons_self, hcarries⟩
    | succ i =>
      rcases ih (by simpa using hi) with ⟨chunk', hmem, hcarries'⟩
      refine ⟨chunk', mem_cons_of_mem chunk hmem, ?_⟩
      rw [show seq + (i + 1) + 1 = seq + 1 + i + 1 by omega]
      exact hcarries'

lemma appendConcatenation_ok (h : HasElements ud es) (use16bit : Bool) (ref : UInt16)
    (hes : (header es).length ≤ 7) : ∃ ud', appendConcatenation use16bit ref ud (header es).length =
    .ok (ud', (concatenationPrefix es use16bit ref).length + 2) ∧
    ∃ seq rest, ud'.octets = concatenationPrefix es use16bit ref ++ ([0, seq] ++ rest) := by
  have hlen : (header (es ++ [concatenationElement use16bit ref 0 0])).length =
      (concatenationPrefix es use16bit ref).length + 2 := by
    rw [header_concatenation]
    simp
  have hencode : (concatenationElement use16bit ref 0 0).encode =
      concatenationKnown use16bit ref ++ List.replicate 2 0 :=
    encode_concatenationElement use16bit ref 0 0
  have hprefix : (concatenationPrefix es use16bit ref).length ≤ 12 := by
    have htlv : (Tlv.encode es).length ≤ 6 := by
      cases es with
      | nil => simp
      | cons e es =>
        simp [header, udhOctets] at hes
        omega
    cases use16bit <;> simp [concatenationPrefix, concatenationKnown] <;> omega
  rcases appendIe_ok h hencode (by omega) with ⟨ud', happend, hud'⟩
  rw [hlen] at happend
  refine ⟨ud', ?_, ?_⟩
  · cases use16bit with
    | true => exact happend
    | false => exact happend
  · rcases hud' with ⟨z, hz⟩
    rw [← header_of_ne_nil (append_ne_nil_of_right_ne_nil es (cons_ne_nil _ _)),
      header_concatenation, append_assoc] at hz
    exact ⟨0, List.replicate z 0, hz⟩

/-! ## All messages -/

/-- What is known of the list of submits of a text: one that carries all of it, or numbered
ones that carry its pieces. -/
def SubmitsOf (gsm : Bool) (es : List Element) (use16bit : Bool) (ref : UInt16)
    (Coded : List Char → Prop) (enc : List Char → List UInt8) (s : List Char)
    (submits : List SmsSubmit) : Prop :=
  (∃ submit, submits = [submit] ∧ Carries gsm submit es (enc s) ∧ Fits gsm (header es).length (enc s)) ∨
    ∃ pieces : List (List Char), s = pieces.flatten ∧
      Fragments gsm es use16bit ref (UInt8.ofNat submits.length) 0 submits (pieces.map enc) ∧
      ∀ p ∈ pieces, Coded p ∧ Fits gsm ((concatenationPrefix es use16bit ref).length + 2) (enc p)

variable {s : List Char} {submits : List SmsSubmit}

lemma prepareSubmits_single (gsm : Bool) (es : List Element) (hseptets : gsm = true → enc s ≠ [] ∧
    ∀ k ∈ enc s, k < 128) (hdcs : template.dcs = if gsm then 0 else 8)
    (hud : HasElements template.ud es) (hone : fitsInOne gsm (header es).length (enc s) = true) (h :
    prepareSubmits gsm (enc s) template (header es).length ref use16bit = .ok submits) : ∃ submit,
    submits = [submit] ∧ Carries gsm submit es (enc s) ∧ Fits gsm (header es).length (enc s) := by
  have hudhi : ((header es).length != 0) = !es.isEmpty := by
    cases es with
    | nil => rfl
    | cons e es => rfl
  have hfits : Fits gsm (header es).length (enc s) := by
    refine ⟨hseptets, ?_⟩
    unfold fitsInOne smsTextCapacityGsm at hone
    unfold userDataLength
    cases gsm with
    | true =>
      simp only [if_true, decide_eq_true_eq] at hone ⊢
      omega
    | false =>
      simp only [Bool.false_eq_true, if_false, decide_eq_true_eq] at hone ⊢
      omega
  rcases hud.header with ⟨old, hold⟩
  have hold' : ({ template with udhi := (header es).length != 0 } : SmsSubmit).ud.octets =
      header es ++ old := hold
  rcases putText_ok hold' hfits with ⟨udl, ud, junk, hput, hudl, hoct⟩
  unfold prepareSubmits at h
  dsimp only at h
  rw [if_pos hone, hput] at h
  obtain rfl : [_] = submits := Outcome.ok.inj h
  exact ⟨_, rfl, ⟨hudhi, hdcs, hudl, junk, hoct⟩, hfits⟩

lemma prepareSubmits_several (gsm : Bool) (es : List Element) (hes : (header es).length ≤ 7)
    (hcuts : Cuts gsm ((concatenationPrefix es use16bit ref).length + 2) Coded enc) (hs : Coded s)
    (hseptets : gsm = true → enc s ≠ [] ∧ ∀ k ∈ enc s, k < 128) (hdcs : template.dcs = if gsm then 0
    else 8) (hud : HasElements template.ud es) (hone : ¬ fitsInOne gsm (header es).length (enc s) =
    true) (h : prepareSubmits gsm (enc s) template (header es).length ref use16bit = .ok submits) :
    1 ≤ submits.length ∧ submits.length ≤ 255 ∧ ∃ pieces : List (List Char), s = pieces.flatten ∧
    Fragments gsm es use16bit ref (UInt8.ofNat submits.length) 0 submits (pieces.map enc) ∧ ∀ p ∈
    pieces, Coded p ∧ Fits gsm ((concatenationPrefix es use16bit ref).length + 2) (enc p) := by
  rcases appendConcatenation_ok hud use16bit ref hes with ⟨ud, happend, hud'⟩
  have ht : LoopTemplate gsm es use16bit ref 0 { template with udhi := true, ud := ud } :=
    ⟨rfl, hdcs, hud'⟩
  rcases fragmentLoop_ok hcuts rfl 255 _ ht 0 rfl s hs with
    ⟨unpatched, pieces, left, hloop, hsplit, hcoded, hle, hfrags, hpieces⟩
  unfold prepareSubmits at h
  dsimp only at h
  rw [if_neg hone, happend, ok_bind] at h
  dsimp only at h
  rw [hloop, ok_bind] at h
  dsimp only at h
  split at h
  · rename_i hleft
    -- the loop has taken all of the text
    have hnil : left = [] := hcuts.eq_nil left hcoded (by simpa using hleft)
    rw [hnil, append_nil] at hsplit
    -- the loop leaves the number of pieces open; it is patched into all of them at last
    rcases hfrags.patch (UInt8.ofNat (0 + unpatched.length)) rfl with ⟨patched, hpatch, hfrags'⟩
    obtain rfl : patched = submits := Outcome.ok.inj (hpatch.symm.trans h)
    have hlen : patched.length = unpatched.length := by
      rw [hfrags'.length_eq, hfrags.length_eq]
    rw [Nat.zero_add, ← hlen] at hfrags'
    refine ⟨?_, by omega, pieces, hsplit, hfrags', hpieces⟩
    -- a text that is cut is not empty
    refine Nat.one_le_iff_ne_zero.mpr fun hzero => hone ?_
    have hpieces0 : pieces.length = 0 := by
      rw [← length_map enc, ← hfrags'.length_eq, hzero]
    rw [eq_nil_of_length_eq_zero hpieces0] at hsplit
    have henc : enc s = [] := by
      rw [hsplit, flatten_nil, ← hnil]
      simpa using hleft
    unfold fitsInOne smsTextCapacityGsm
    rw [henc]
    cases gsm with
    | true => exact absurd henc (hseptets rfl).1
    | false => simp; omega
  · simp at h

lemma prepareSubmits_ok (gsm : Bool) (es : List Element) (hes : (header es).length ≤ 7)
    (hcuts : Cuts gsm ((concatenationPrefix es use16bit ref).length + 2) Coded enc) (hs : Coded s)
    (hseptets : gsm = true → enc s ≠ [] ∧ ∀ k ∈ enc s, k < 128)
    (hdcs : template.dcs = if gsm then 0 else 8) (hud : HasElements template.ud es)
    (h : prepareSubmits gsm (enc s) template (header es).length ref use16bit = .ok submits) :
    1 ≤ submits.length ∧ submits.length ≤ 255 ∧ SubmitsOf gsm es use16bit ref Coded enc s submits := by
  by_cases hone : fitsInOne gsm (header es).length (enc s) = true
  · have hsingle := prepareSubmits_single gsm es hseptets hdcs hud hone h
    rcases hsingle with ⟨submit, rfl, hcarries⟩
    exact ⟨Nat.le_refl 1, by simp, Or.inl ⟨submit, rfl, hcarries⟩⟩
  · rcases prepareSubmits_several gsm es hes hcuts hs hseptets hdcs hud hone h with
      ⟨hpos, hle, hpieces⟩
    exact ⟨hpos, hle, Or.inr hpieces⟩

end Phonelets.Sms
