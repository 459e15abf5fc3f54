import Phonelets.Rsap.Message

/-! # Built messages

The builders pad header and value together, the recogniser rounds the value
alone: `buildParameter_eq` is where the two meet. From it every built message is
a `Message`, so it is recognised exactly and its parameters are recovered.
-/

namespace Phonelets.Rsap

open List

/-- `addParameterPadding([pid, 0, len>>8, len&0xFF] + value)`. -/
def buildParameter (pid : ℕ) (value : List ℕ) : List ℕ :=
  addParameterPadding ([pid] ++ paramReserved ++ [value.length >>> 8, value.length &&& 0xFF]
    ++ value)

/-- A message put together the way the `generate` functions do it. -/
def buildMessage (id : ℕ) (ps : List (ℕ × List ℕ)) : List ℕ :=
  [id] ++ [ps.length] ++ msgReserved ++ ps.flatMap fun p => buildParameter p.1 p.2

/-- The parameter that `buildParameter` writes. -/
def Param.ofValue (pid : ℕ) (value : List ℕ) : Param where
  id := pid
  rsv := 0x00
  value := value
  padding := List.replicate (ceil4 value.length - value.length) 0x00
  padded := by
    have := le_ceil4 value.length
    simp
    omega

/-- The message that `buildMessage` writes. -/
def Message.ofValues (id : ℕ) (ps : List (ℕ × List ℕ)) : Message where
  id := id
  rsv1 := 0x00
  rsv2 := 0x00
  params := ps.map fun p => Param.ofValue p.1 p.2

lemma buildParameter_eq (pid : ℕ) (value : List ℕ) :
    buildParameter pid value = (Param.ofValue pid value).encode := by
  have hpad : ceil4 (value.length + 4) - (value.length + 4) = ceil4 value.length - value.length := by
    rw [Nat.add_comm, ceil4_add_four]
    omega
  simp [buildParameter, addParameterPadding, Param.encode, Param.ofValue, paramReserved, hpad]

lemma buildMessage_eq (id : ℕ) (ps : List (ℕ × List ℕ)) :
    buildMessage id ps = (Message.ofValues id ps).encode := by
  simp [buildMessage, Message.encode, Message.ofValues, msgReserved, buildParameter_eq, flatMap_map]

lemma generateTransferApduResp_eq (apdu : List ℕ) :
    generateTransferApduResp apdu = buildMessage 0x06 [(0x02, [0x00]), (0x05, apdu)] := by
  simp [generateTransferApduResp, buildMessage, buildParameter, messageName, parameterName]

lemma generateTransferAtrResp_eq (atr : List ℕ) :
    generateTransferAtrResp atr = buildMessage 0x08 [(0x02, [0x00]), (0x06, atr)] := by
  simp [generateTransferAtrResp, buildMessage, buildParameter, messageName, parameterName]

/-! ## Recovering the parameters -/

/-- Both ids are in the tables of the protocol. -/
def KnownIds (id : ℕ) (ps : List (ℕ × List ℕ)) : Prop :=
  (messageID id).isSome ∧ ∀ p ∈ ps, (parameterID p.1).isSome

/-- `printMessage` goes through and reports exactly the parameters of the message. -/
def Recovers (id : ℕ) (ps : List (ℕ × List ℕ)) : Prop :=
  ∃ r, printMessage (buildMessage id ps) = .ok r ∧
    r.params.map (fun q => (parameterName q.name, q.paramVal)) = ps ∧
    ∀ q ∈ r.params, q.paramLen = q.paramVal.length

lemma known_ofValues (id : ℕ) (ps : List (ℕ × List ℕ)) :
    (Message.ofValues id ps).Known ↔ KnownIds id ps := by
  unfold Message.Known Message.ofValues KnownIds
  rw [forall_mem_map]
  rfl

lemma recovers_of_known {id : ℕ} {ps : List (ℕ × List ℕ)} (h : KnownIds id ps) :
    Recovers id ps := by
  rcases printMessage_of_known ((known_ofValues id ps).mpr h) with ⟨r, hr, hmap, hlen⟩
  refine ⟨r, ?_, ?_, hlen⟩
  · rw [buildMessage_eq]
    exact hr
  · rw [hmap]
    unfold Message.ofValues
    rw [map_map]
    exact map_id ps

lemma printMessage_unknown {id : ℕ} {ps : List (ℕ × List ℕ)} (h : ¬ KnownIds id ps) :
    printMessage (buildMessage id ps) = .error .keyError := by
  rw [buildMessage_eq]
  exact printMessage_of_unknown fun hk => h ((known_ofValues id ps).mp hk)

lemma recovers_transferApduResp (apdu : List ℕ) : Recovers 0x06 [(0x02, [0x00]), (0x05, apdu)] := by
  apply recovers_of_known
  simp [KnownIds, messageID, parameterID]

lemma recovers_transferAtrResp (atr : List ℕ) : Recovers 0x08 [(0x02, [0x00]), (0x06, atr)] := by
  apply recovers_of_known
  simp [KnownIds, messageID, parameterID]

lemma printMessage_generateTransferApduResp (apdu : List ℕ) :
    ∃ r, printMessage (generateTransferApduResp apdu) = .ok r := by
  rcases recovers_transferApduResp apdu with ⟨r, hr, -⟩
  rw [generateTransferApduResp_eq]
  exact ⟨r, hr⟩

lemma printMessage_generateTransferAtrResp (atr : List ℕ) :
    ∃ r, printMessage (generateTransferAtrResp atr) = .ok r := by
  rcases recovers_transferAtrResp atr with ⟨r, hr, -⟩
  rw [generateTransferAtrResp_eq]
  exact ⟨r, hr⟩

/-! ## The APDU of a request and the size of a response -/

lemma extractApduReq_build {pid : ℕ} (hpid : pid = 0x04 ∨ pid = 0x10) (apdu : List ℕ) (rest : List
    (ℕ × List ℕ)) : extractApduReq (buildMessage 0x05 ((pid, apdu) :: rest)) = .ok (some apdu) := by
  rw [buildMessage_eq]
  exact extractApduReq_encode (p := Param.ofValue pid apdu) rfl rfl hpid

lemma length_buildParameter (pid : ℕ) (value : List ℕ) :
    (buildParameter pid value).length = 4 + ceil4 value.length := by
  rw [buildParameter_eq, Param.length_encode]
  rfl

lemma length_generateTransferApduResp (apdu : List ℕ) :
    (generateTransferApduResp apdu).length = 16 + ceil4 apdu.length := by
  rw [generateTransferApduResp_eq]
  simp only [buildMessage, msgReserved, flatMap_cons, flatMap_nil, length_append,
    length_buildParameter, length_cons, length_nil]
  have : ceil4 (0 + 1) = 4 := rfl
  omega

/-- The octets that `hex_print` of `telit.c` reserves for its text. -/
def hexPrintBuf : ℕ := 300 * 3 + 1

/-- The text that `hex_print` writes, `"%02X "` for each octet; the terminating
NUL comes on top. -/
def hexPrint (buf : List ℕ) : List Char :=
  buf.flatMap fun b => [(Nat.digitChar (b / 16 % 16)).toUpper, (Nat.digitChar (b % 16)).toUpper, ' ']

lemma length_hexPrint (buf : List ℕ) : (hexPrint buf).length = 3 * buf.length := by
  simp [hexPrint, length_flatMap]
  omega

/-! ## The message format -/

/-- A built message is recognised exactly; if its ids are known `printMessage`
recovers its parameters, otherwise it raises `KeyError`; the responses of the
server are such messages around the card's octets; the APDU of a request is
extracted unchanged; a response to at most 258 octets fits the buffer of
`hex_print`. -/
theorem rsap_message_format (id : ℕ) (ps : List (ℕ × List ℕ)) : isMessageComplete
    (buildMessage id ps) = true ∧ (∀ q, q <+: buildMessage id ps → q ≠ buildMessage id ps →
    isMessageComplete q = false) ∧ (KnownIds id ps → Recovers id ps) ∧ (¬ KnownIds id ps →
    printMessage (buildMessage id ps) = .error .keyError) ∧ (∀ apdu, generateTransferApduResp apdu =
    buildMessage 0x06 [(0x02, [0x00]), (0x05, apdu)] ∧ Recovers 0x06 [(0x02, [0x00]), (0x05, apdu)])
    ∧ (∀ atr, generateTransferAtrResp atr = buildMessage 0x08 [(0x02, [0x00]), (0x06, atr)] ∧
    Recovers 0x08 [(0x02, [0x00]), (0x06, atr)]) ∧ (∀ pid apdu rest, pid = 0x04 ∨ pid = 0x10 →
    extractApduReq (buildMessage 0x05 ((pid, apdu) :: rest)) = .ok (some apdu)) ∧
    (∀ apdu, apdu.length ≤ 258 → (generateTransferApduResp apdu).length ≤ 300 ∧
    (hexPrint (generateTransferApduResp apdu)).length + 1 ≤ hexPrintBuf) := by
  have hexact : Reassembly.Exact isMessageComplete (buildMessage id ps) := by
    rw [buildMessage_eq]
    exact exact_encode _
  refine ⟨hexact.accepts, hexact.prefix_free, recovers_of_known, printMessage_unknown, ?_, ?_, ?_, ?_⟩
  · intro apdu
    exact ⟨generateTransferApduResp_eq apdu, recovers_transferApduResp apdu⟩
  · intro atr
    exact ⟨generateTransferAtrResp_eq atr, recovers_transferAtrResp atr⟩
  · intro pid apdu rest hpid
    exact extractApduReq_build hpid apdu rest
  · intro apdu hapdu
    have hle : ceil4 apdu.length ≤ 260 := by
      unfold ceil4
      omega
    have hlen := length_generateTransferApduResp apdu
    refine ⟨by omega, ?_⟩
    rw [length_hexPrint]
    unfold hexPrintBuf
    omega

/-- An id outside the table is enough for `printMessage` not to reach the walk. -/
theorem printMessage_not_total : ¬ ∀ id ps, id < 256 → ps.length ≤ 255 →
    (∀ p ∈ ps, p.1 < 256 ∧ p.2.length < 65536) → Recovers id ps := by
  intro h
  rcases h 0xFF [] (by decide) (by decide) (by simp) with ⟨r, hr, -⟩
  have herr : printMessage (buildMessage 0xFF []) = .error .keyError := rfl
  rw [herr] at hr
  cases hr

end Phonelets.Rsap
