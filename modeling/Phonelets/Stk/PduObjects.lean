import Phonelets.Stk.BuilderValues
import Phonelets.Stk.Envelope
import Phonelets.Stk.Response

/-! # The objects of a PDU

`Keeps f`: whatever was built before, `f` opens some more containers, and what stands in
the buffer then are their TLVs behind those that were there. It composes as the builders of
the commands and of the envelopes do. The one body that may write more than its container
takes is a packed text.
-/

namespace Phonelets.Stk

open Phonelets.Sim (CompTlv)
open StkTlvBuilder (Closed Open Added AppendsSome container place appendByte appends_byte appendText
  appendGsmPacked)

/-- More containers have been opened and filled, the last one first. -/
structure Extended (b b' : StkTlvBuilder) (es : List CompTlv) (cs : List Container) : Prop where
  closed : Closed b' (es ++ cs.reverse.map Container.toCompTlv)
  opened : b'.opened = cs ++ b.opened
  place : b'.place = b.place

/-- The step leaves the containers that it has opened, as they were filled. -/
def Keeps (f : StkTlvBuilder → Outcome StkTlvBuilder) : Prop :=
  ∀ b b' es, Closed b es → f b = .ok b' → ∃ cs, Extended b b' es cs

section Rules

variable {f g : StkTlvBuilder → Outcome StkTlvBuilder}

lemma keeps_nothing : Keeps .ok := by
  intro b b' es hclosed hok
  cases hok
  exact ⟨[], by simpa using hclosed, rfl, rfl⟩

lemma keeps_reject : Keeps fun _ => .reject := by
  intro b b' es _ hok
  cases hok

lemma Extended.trans {b b₁ b' : StkTlvBuilder} {es : List CompTlv} {cs cs' : List Container}
    (h : Extended b b₁ es cs) (h' : Extended b₁ b' (es ++ cs.reverse.map Container.toCompTlv) cs') :
    Extended b b' es (cs' ++ cs) := by
  refine ⟨?_, ?_, h'.place.trans h.place⟩
  · rw [List.reverse_append, List.map_append, ← List.append_assoc]
    exact h'.closed
  · rw [h'.opened, h.opened, List.append_assoc]

lemma Keeps.kleisli (hf : Keeps f) (hg : Keeps g) : Keeps (f >=> g) := by
  intro b b' es hclosed hok
  rcases Outcome.bind_eq_ok.mp hok with ⟨b₁, h₁, h₂⟩
  rcases hf b b₁ es hclosed h₁ with ⟨cs, hext⟩
  rcases hg b₁ b' _ hext.closed h₂ with ⟨cs', hext'⟩
  exact ⟨_, hext.trans hext'⟩

lemma Keeps.ite {c : Prop} [Decidable c] (hf : Keeps f) (hg : Keeps g) : Keeps (if c then f else g) := by
  by_cases hc : c
  · rw [if_pos hc]
    exact hf
  · rw [if_neg hc]
    exact hg

lemma Keeps.bind {α : Type} {o : Outcome α} {k : α → StkTlvBuilder → Outcome StkTlvBuilder}
    (h : ∀ a, Keeps (k a)) : Keeps fun b => o >>= fun a => k a b := by
  intro b b' es hclosed hok
  rcases Outcome.bind_eq_ok.mp hok with ⟨a, -, hrest⟩
  exact h a b b' es hclosed hrest

lemma Keeps.before (hf : Keeps f) {l : List (StkTlvBuilder → Outcome StkTlvBuilder)}
    (hl : Keeps (buildDataobj l)) : Keeps (buildDataobj (f :: l)) :=
  hf.kleisli hl

lemma Keeps.alone (hf : Keeps f) : Keeps (buildDataobj [f]) :=
  hf.before keeps_nothing

lemma keeps_each {α : Type} {append : α → StkTlvBuilder → Outcome StkTlvBuilder}
    (h : ∀ a, Keeps (append a)) (l : List α) : Keeps (appendEach append l) := by
  induction l with
  | nil => exact keeps_nothing
  | cons a l ih => exact (h a).kleisli ih

lemma Added.extended {b b' : StkTlvBuilder} {es : List CompTlv} {c : Container}
    (h : Added b b' es c.toCompTlv c) : Extended b b' es [c] :=
  ⟨h.closed, h.opened, h.place⟩

lemma Writes.keeps {w : DataobjWriter} {type : DataObjectType} {P : List UInt8 → Prop}
    (h : Writes w type P) (cr : Bool) : Keeps (w cr) := by
  intro b b' es hclosed hok
  rcases h cr b b' es hclosed hok with rfl | ⟨os, maxLen, -, -, -, hadded⟩
  · exact keeps_nothing _ _ es hclosed rfl
  · exact ⟨[⟨⟨cr, type.code, os⟩, maxLen⟩], Added.extended hadded⟩

end Rules

/-! ## Texts -/

section Text

variable {env : StkEnv} {b b' : StkTlvBuilder}

/-- The octets that a string is packed in. -/
def packedString (env : StkEnv) (text : List UInt8) : List UInt8 :=
  0x00 :: (Septets.pack7bitOwnBuf (env.readPast ((Gsm.convertUtf8ToGsm text).getD []) text.length) 0
    false).getD []

lemma copy_of_appendGsmPacked {text : List UInt8} (h : b.appendGsmPacked env text = .ok b') :
    b.copy (packedString env text) = .ok b' := by
  unfold StkTlvBuilder.appendGsmPacked at h
  dsimp only at h
  split_ifs at h
  exact h

lemma appendsSome_text (env : StkEnv) (text : List UInt8) :
    AppendsSome (appendText env text) fun _ => True := by
  intro b b' _ _ hok
  rcases appendText_cases hok with ⟨-, hcopy, hroom⟩ | ⟨-, hucs2⟩
  · exact ⟨_, trivial, hcopy, by rw [List.length_cons]; omega⟩
  · unfold StkTlvBuilder.appendUcs2 at hucs2
    rcases hto : env.toUcs2 text with _ | ucs2
    · rw [hto] at hucs2
      cases hucs2
    · rw [hto] at hucs2
      dsimp only at hucs2
      split_ifs at hucs2 with hfull
      exact ⟨_, trivial, hucs2, by rw [List.length_cons]; omega⟩

/-- The string of an answer that is packed. -/
def StkAnswerText.packedText (text : StkAnswerText) : Option HeapString :=
  if text.packed ∧ !text.yesno then text.text else none

lemma StkAnswerText.packedText_eq_some {text : StkAnswerText} {s : HeapString}
    (h : text.packedText = some s) : text.text = some s ∧ text.packed = true ∧ text.yesno = false := by
  unfold packedText at h
  split_ifs at h with hpacked
  exact ⟨h, hpacked.1, by simpa using hpacked.2⟩

lemma keeps_text {text : StkAnswerText} (h : ∀ s, text.packedText = some s → (packedString env
    s.bytes).length ≤ 0xff) (cr : Bool) : Keeps (buildDataobjText env text cr) := by
  have hsome : AppendsSome (appendAnswer env text) (fun _ => True) → Keeps (buildDataobjText env text cr) := by
    intro happends
    have hwrites : Writes (buildDataobjText env text) .text fun _ => True :=
      Writes.ite (fun _ => writes_nothing) fun _ => writes_some happends true
    exact hwrites.keeps cr
  by_cases hyesno : text.yesno
  · refine hsome ?_
    unfold appendAnswer
    rw [if_pos hyesno]
    intro b b' hinside hroomy hok
    rcases ((appends_byte _).kleisli (appends_byte _)).some b b' hinside hroomy hok with ⟨os, -, hos⟩
    exact ⟨os, trivial, hos⟩
  · rcases htext : text.text with _ | s
    · intro b b' es hclosed hok
      unfold buildDataobjText at hok
      rw [if_pos ⟨htext, by simpa using hyesno⟩] at hok
      exact keeps_nothing b b' es hclosed hok
    · by_cases hpacked : text.packed
      · intro b b' es hclosed hok
        have hlen := h s (by rw [StkAnswerText.packedText, if_pos ⟨hpacked, by simpa using hyesno⟩, htext])
        unfold buildDataobjText appendAnswer at hok
        rw [if_neg (by rw [htext]; simp), if_neg hyesno, htext] at hok
        simp only [if_pos hpacked] at hok
        rcases hclosed.container_copy (Q := (· = packedString env s.bytes))
          (fun _ _ _ hfill => ⟨_, rfl, copy_of_appendGsmPacked hfill⟩) hok with ⟨e, _, rfl, hagree, hadded⟩
        rw [hagree.eq hlen] at hadded
        exact ⟨_, Added.extended hadded⟩
      · refine hsome ?_
        unfold appendAnswer
        rw [if_neg hyesno, htext]
        simp only [if_neg hpacked]
        exact appendsSome_text env s.bytes

end Text

/-! ## Terminal responses -/

section Response

variable {env : StkEnv} {response : StkResponse}

/-- The text that a response packs. -/
def StkResponse.packedText (response : StkResponse) : Option HeapString :=
  match response.type.toNat with
  | 0x22 => response.getInkey.text.packedText
  | 0x23 => response.getInput.packedText
  | _ => none

lemma keeps_setupCall (response : StkResponse) : Keeps (buildSetupCall response) :=
  Keeps.ite (((writes_ccRequestedAction _).keeps _).before ((writes_result _).keeps _).alone)
    ((writes_ccRequestedAction _).keeps _).alone

lemma keeps_locationAt (info : StkResponseLocalInfo) (i : ℕ) : Keeps (buildLocationAt info i) := by
  refine Keeps.bind fun location => Keeps.alone ?_
  split_ifs
  · exact writes_emptyLocationInfo.keeps false
  · exact (writes_locationInfo location).keeps false

lemma keeps_nmrAt (info : StkResponseLocalInfo) (i : ℕ) : Keeps (buildNmrAt info i) :=
  Keeps.bind fun nmr => ((writes_networkMeasurementResults nmr.nmr).keeps _).before
    ((writes_bcchChannelList nmr.bcchChList).keeps _).alone

lemma keeps_localInfo (env : StkEnv) (response : StkResponse) : Keeps (buildLocalInfo env response) := by
  unfold buildLocalInfo
  dsimp only
  split
  · exact ((writes_locationInfo _).keeps _).alone
  · exact ((writes_imei _).keeps _).alone
  · exact ((writes_networkMeasurementResults _).keeps _).before ((writes_bcchChannelList _).keeps _).alone
  · exact ((writes_datetimeTimezone _).keeps _).alone
  · exact ((writes_language env _).keeps _).alone
  · exact ((writes_timingAdvance _).keeps _).alone
  · exact ((writes_accessTechnologies _).keeps _).alone
  · exact ((writes_esn _).keeps _).alone
  · exact ((writes_imeisv _).keeps _).alone
  · exact ((writes_byte _ _ _).keeps _).alone
  · exact ((writes_byte _ _ _).keeps _).alone
  · exact ((writes_meid _).keeps _).alone
  · exact ((writes_broadcastNetworkInformation _).keeps _).alone
  · exact ((writes_accessTechnologies _).keeps _).alone
  · exact ((writes_accessTechnologies _).keeps _).alone.kleisli (keeps_each (keeps_locationAt _) _)
  · exact ((writes_accessTechnologies _).keeps _).alone.kleisli (keeps_each (keeps_nmrAt _) _)
  · exact keeps_reject

lemma keeps_openChannel (response : StkResponse) : Keeps (buildOpenChannel response) :=
  (Keeps.ite ((writes_octets _ _ _).keeps _).alone keeps_nothing).kleisli
    (((writes_bearerDescription _).keeps _).before ((writes_bufferSize _).keeps _).alone)

lemma keeps_receiveData (response : StkResponse) : Keeps (buildReceiveData response) :=
  Keeps.ite keeps_nothing
    ((Keeps.ite ((writes_octets _ _ _).keeps _).alone keeps_nothing).kleisli
      ((writes_byte _ _ _).keeps _).alone)

lemma keeps_sendData (response : StkResponse) : Keeps (buildSendData response) :=
  Keeps.ite keeps_nothing ((writes_byte _ _ _).keeps _).alone

/-- The objects of every command, if it packs no text that is longer than its container. -/
lemma keeps_responseData (h : ∀ s, response.packedText = some s →
    (packedString env s.bytes).length ≤ 0xff) : Keeps (buildResponseData env response) := by
  have hkeeps : ∀ text : StkAnswerText, response.packedText = text.packedText →
      Keeps (buildDataobjText env text true) := fun text htext => keeps_text (htext ▸ h) true
  unfold StkResponse.packedText at hkeeps
  unfold buildResponseData
  split
  · exact keeps_nothing
  · rename_i htype
    exact (hkeeps _ (by simp only [htype])).before ((writes_duration _).keeps _).alone
  · rename_i htype
    exact (hkeeps _ (by simp only [htype])).alone
  · exact keeps_nothing
  · exact keeps_nothing
  · exact keeps_nothing
  · exact ((writes_duration _).keeps _).alone
  · exact keeps_nothing
  · exact keeps_nothing
  · exact ((writes_itemId _).keeps _).alone
  · exact keeps_nothing
  · exact keeps_setupCall response
  · exact keeps_nothing
  · exact keeps_localInfo env response
  · exact keeps_nothing
  · exact ((writes_timerId _).keeps _).before ((writes_timerValue _).keeps _).alone
  · exact keeps_nothing
  · exact ((writes_atResponse _).keeps _).alone
  · exact keeps_nothing
  · exact keeps_nothing
  · exact keeps_nothing
  · exact keeps_nothing
  · exact ((writes_ussdText _).keeps _).alone
  · exact keeps_openChannel response
  · exact keeps_receiveData response
  · exact keeps_sendData response
  · exact ((writes_octets _ _ _).keeps _).alone
  · exact keeps_reject

end Response

/-! ## Envelopes -/

section Envelope

lemma keeps_deviceIds (envelope : StkEnvelope) (cr : Bool) :
    Keeps (buildEnvelopeDataobjDeviceIds envelope cr) := by
  have hwrites : Writes (buildEnvelopeDataobjDeviceIds envelope) .deviceIdentities
      (· = [envelope.src, envelope.dst]) := writes_behind _ (appends_byte _) false
  exact hwrites.keeps cr

lemma keeps_callControlObject (cc : StkEnvelopeCallControl) : Keeps (buildCallControlObject cc) := by
  unfold buildCallControlObject
  cases cc.type with
  | callSetup => exact ((writes_bcdString _ _).keeps _).alone
  | supplementaryService => exact ((writes_bcdString _ _).keeps _).alone
  | ussdOp => exact ((writes_ussdString _).keeps _).alone
  | pdpCtxActivation => exact ((writes_params _ _).keeps _).alone
  | epsPdnConnectionActivation => exact ((writes_params _ _).keeps _).alone

lemma keeps_callControl (env : StkEnv) (envelope : StkEnvelope) :
    Keeps (buildEnvelopeCallControl env envelope) :=
  (keeps_deviceIds envelope _).alone.kleisli ((keeps_callControlObject _).kleisli
    (((writes_ccp _).keeps _).before (((writes_subaddress _).keeps _).before
      (((writes_locationInfo _).keeps _).before (((writes_ccp _).keeps _).before
        (((writes_alphaId env _).keeps _).before ((writes_bcRepeat _).keeps _).alone))))))

lemma keeps_eventObjects (env : StkEnv) (evt : StkEnvelopeEventDownload) :
    Keeps (buildEventObjects env evt) := by
  unfold buildEventObjects
  split
  · exact ((writes_octets _ _ _).keeps _).before (((writes_bcdString _ _).keeps _).before
      ((writes_subaddress _).keeps _).alone)
  · exact ((writes_octets _ _ _).keeps _).alone
  · exact ((writes_octets _ _ _).keeps _).before ((writes_cause _).keeps _).alone
  · exact ((writes_byte _ _ _).keeps _).before ((writes_locationInfo _).keeps _).alone
  · exact keeps_nothing
  · exact keeps_nothing
  · exact ((writes_byte _ _ _).keeps _).alone
  · exact ((writes_language env _).keeps _).alone
  · exact ((writes_byte _ _ _).keeps _).alone
  · exact ((writes_octets _ _ _).keeps _).before ((writes_byte _ _ _).keeps _).alone
  · exact ((writes_octets _ _ _).keeps _).before (((writes_bearerDescription _).keeps _).before
      ((writes_otherAddress _).keeps _).alone)
  · exact ((writes_accessTechnologies _).keeps _).alone
  · exact ((writes_displayParameters _).keeps _).alone
  · exact ((writes_serviceRecord _).keeps _).before (((writes_remoteEntityAddress _).keeps _).before
      (((writes_uiccTeInterface _).keeps _).before ((writes_otherAddress _).keeps _).alone))
  · exact ((writes_byte _ _ _).keeps _).alone
  · exact ((writes_octets _ _ _).keeps _).alone
  · exact ((writes_framesInformation _).keeps _).alone
  · exact ((writes_byte _ _ _).keeps _).alone
  · exact ((writes_locationInfo _).keeps _).before (((writes_routingAreaId _).keeps _).before
      (((writes_trackingAreaId _).keeps _).before (((writes_accessTechnologies _).keeps _).before
        (((writes_byte _ _ _).keeps _).before ((writes_byte _ _ _).keeps _).alone))))
  · exact keeps_nothing
  · exact keeps_reject

lemma keeps_terminalApps (env : StkEnv) (envelope : StkEnvelope) :
    Keeps (buildEnvelopeTerminalApps env envelope) :=
  (keeps_deviceIds envelope _).alone.kleisli
    ((keeps_each (fun rad => ((writes_registryApplicationData env rad).keeps _).alone) _).kleisli
      ((writes_lastEnvelope _).keeps _).alone)

lemma keeps_envelopeData (env : StkEnv) (envelope : StkEnvelope) :
    Keeps (buildEnvelopeData env envelope) := by
  have hids := keeps_deviceIds envelope
  unfold buildEnvelopeData
  split
  · exact (hids _).before (((writes_bcdString _ _).keeps _).before ((writes_gsmSmsTpdu _).keeps _).alone)
  · exact (hids _).before ((writes_cbsPage _).keeps _).alone
  · exact (hids _).before (((writes_itemId _).keeps _).before ((writes_helpRequest _).keeps _).alone)
  · exact keeps_callControl env envelope
  · exact (hids _).before (((writes_bcdString _ _).keeps _).before (((writes_bcdString _ _).keeps _).before
      ((writes_locationInfo _).keeps _).alone))
  · exact ((writes_octets _ _ _).keeps _).before (hids _).alone |>.kleisli (keeps_eventObjects env _)
  · exact (hids _).before (((writes_timerId _).keeps _).before ((writes_timerValue _).keeps _).alone)
  · exact (hids _).before ((writes_ussdString _).keeps _).alone
  · exact (hids _).before (((writes_fileList _).keeps _).before (((writes_mmsId _).keeps _).before
      ((writes_mmsTransferStatus _).keeps _).alone))
  · exact (hids _).before (((writes_octets _ _ _).keeps _).before ((writes_lastEnvelope _).keeps _).alone)
  · exact keeps_terminalApps env envelope
  · exact keeps_reject

end Envelope

end Phonelets.Stk
