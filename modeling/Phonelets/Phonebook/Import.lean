import Phonelets.Lib.Machine

/-! # The phonebook

`Import` exports the storages one after the other. An entry is printed as it is reported, except
that entries whose texts differ in `/w`, `/h`, `/m` or `/o` only are collected, and printed behind
the others of their storage.

The vCards are lists of the lines that the functions `vcard_printf_...` are called for; how such a
line is written is not part of this model.
-/

namespace Phonelets.Phonebook

/-! ## Data -/

inductive PhonebookNumberType
  | home
  | mobile
  | fax
  | work
  | other

/-- `struct phonebook_number`; a number is NULL or a string. -/
structure PhonebookNumber where
  number : Option (List UInt8)
  type : Int
  category : PhonebookNumberType

structure PhonebookPerson where
  numberList : List PhonebookNumber
  text : List UInt8
  group : Option (List UInt8)
  email : Option (List UInt8)
  sipUri : Option (List UInt8)

/-- What a driver reports to `ofono_phonebook_entry`, as far as it is used. -/
structure PhonebookEntry where
  number : Option (List UInt8)
  type : Int
  text : Option (List UInt8)
  group : Option (List UInt8)
  adnumber : Option (List UInt8)
  adtype : Int
  email : Option (List UInt8)
  sipUri : Option (List UInt8)

/-- A line of a vCard, or the lines of its begin or end. -/
inductive VCardLine
  | begin
  | text (text : List UInt8)
  | number (number : List UInt8) (type : Int) (category : PhonebookNumberType)
  | group (group : List UInt8)
  | email (email : List UInt8)
  | sipUri (sipUri : List UInt8)
  | end

/-- The replies to `Import`. -/
inductive ImportReply
  | busy
  | entries (vcards : List VCardLine)

/-- `struct ofono_phonebook`; `exporting` tells whether the driver exports a storage. Messages are
numbered as they come; `reported` has the entries of every storage since the export began. -/
structure OfonoPhonebook where
  pending : Option ℕ
  storageIndex : ℕ
  cached : Bool
  vcards : List VCardLine
  mergeList : List PhonebookPerson
  exporting : Bool
  received : ℕ
  replies : List (ℕ × ImportReply)
  reported : List (List PhonebookEntry)

namespace OfonoPhonebook

def start : OfonoPhonebook where
  pending := none
  storageIndex := 0
  cached := false
  vcards := []
  mergeList := []
  exporting := false
  received := 0
  replies := []
  reported := []

/-! ## Printing -/

def vcardPrintfNumber (pn : PhonebookNumber) : List VCardLine :=
  match pn.number with
  | none => []
  | some number =>
    if number = [] ∨ pn.type = 0 then [] else [.number number pn.type pn.category]

/-- `vcard_printf_group`, `vcard_printf_email` and `vcard_printf_sip_uri`, which print a field
that is there and not empty. -/
def vcardPrintfField (line : List UInt8 → VCardLine) (field : Option (List UInt8)) :
    List VCardLine :=
  match field with
  | none => []
  | some octets => if octets = [] then [] else [line octets]

def printMergedEntry (person : PhonebookPerson) : List VCardLine :=
  [.begin, .text person.text] ++ person.numberList.flatMap vcardPrintfNumber ++
    vcardPrintfField .group person.group ++ vcardPrintfField .email person.email ++
    vcardPrintfField .sipUri person.sipUri ++ [.end]

/-! ## Entries -/

/-- `tolower` of an octet. -/
def toLower (c : UInt8) : UInt8 := if 0x41 ≤ c ∧ c ≤ 0x5a then c + 0x20 else c

/-- One of the letters `w`, `h`, `m` and `o`, in either case. -/
def isMergeLetter (c : UInt8) : Bool :=
  toLower c = 0x77 || toLower c = 0x68 || toLower c = 0x6d || toLower c = 0x6f

/-- `need_merge`: the text before the slash and the letter behind it. -/
def needMerge (text : Option (List UInt8)) : Option (List UInt8 × UInt8) :=
  match text.map List.reverse with
  | some (c :: slash :: front) =>
    if slash = 0x2f ∧ isMergeLetter c = true then some (front.reverse, c) else none
  | _ => none

/-- The category that `merge_field_number` takes from the letter. -/
def categoryOf (c : UInt8) : PhonebookNumberType :=
  if toLower c = 0x77 then .work
  else if toLower c = 0x68 then .home
  else if toLower c = 0x6d then .mobile
  else if toLower c = 0x66 then .fax
  else .other

def mergeFieldGeneric (str1 str2 : Option (List UInt8)) : Option (List UInt8) :=
  if str1 = none ∧ str2 ≠ none ∧ str2 ≠ some [] then str2 else str1

/-- `ofono_phonebook_entry` of an entry that is merged into a person. -/
def mergeEntry (entry : PhonebookEntry) (c : UInt8) (person : PhonebookPerson) :
    PhonebookPerson :=
  { person with
    numberList := person.numberList ++
      [⟨entry.number, entry.type, categoryOf c⟩, ⟨entry.adnumber, entry.adtype, categoryOf c⟩]
    group := mergeFieldGeneric person.group entry.group
    email := mergeFieldGeneric person.email entry.email
    sipUri := mergeFieldGeneric person.sipUri entry.sipUri }

/-- The first person of that name takes the entry. -/
def mergeInto (name : List UInt8) (entry : PhonebookEntry) (c : UInt8) :
    List PhonebookPerson → List PhonebookPerson
  | [] => []
  | person :: rest =>
    if person.text = name then mergeEntry entry c person :: rest
    else person :: mergeInto name entry c rest

/-- The list of those to be merged, with a new person at its front where there is none yet. -/
def mergeEntries (mergeList : List PhonebookPerson) (name : List UInt8) (entry : PhonebookEntry)
    (c : UInt8) : List PhonebookPerson :=
  if mergeList.any fun person => person.text = name then mergeInto name entry c mergeList
  else mergeInto name entry c (⟨[], name, none, none, none⟩ :: mergeList)

/-- The name of a card of its own. -/
def entryName (entry : PhonebookEntry) : List UInt8 :=
  if entry.text = none ∨ entry.text = some [] then entry.number.getD []
  else entry.text.getD []

/-- The vCard of an entry that is not merged. -/
def printEntry (entry : PhonebookEntry) : List VCardLine :=
  [.begin, .text (entryName entry)] ++
    vcardPrintfNumber ⟨entry.number, entry.type, .other⟩ ++
    vcardPrintfNumber ⟨entry.adnumber, entry.adtype, .other⟩ ++
    vcardPrintfField .group entry.group ++ vcardPrintfField .email entry.email ++
    vcardPrintfField .sipUri entry.sipUri ++ [.end]

/-- There is nothing to print. -/
def isBlank (entry : PhonebookEntry) : Bool :=
  (entry.number = none || entry.number = some []) && (entry.text = none || entry.text = some [])

/-- `ofono_phonebook_entry`. -/
def phonebookEntry (s : OfonoPhonebook) (entry : PhonebookEntry) : OfonoPhonebook :=
  if isBlank entry then s
  else
    match needMerge entry.text with
    | some (name, c) => { s with mergeList := mergeEntries s.mergeList name entry c }
    | none => { s with vcards := s.vcards ++ printEntry entry }

/-! ## Storages -/

def storageSupport : List String := ["SM", "ME"]

/-- `__ofono_dbus_pending_reply`. -/
def pendingReply (s : OfonoPhonebook) (reply : ImportReply) : OfonoPhonebook :=
  { s with
    pending := none
    replies := s.replies ++ s.pending.toList.map fun msg => (msg, reply) }

def exportPhonebook (s : OfonoPhonebook) : OfonoPhonebook :=
  match storageSupport[s.storageIndex]? with
  | some _ => { s with exporting := true, reported := s.reported ++ [[]] }
  | none => { pendingReply s (.entries s.vcards) with cached := true }

/-- `export_phonebook_cb`, which goes on behind an error as well. -/
def exportPhonebookCb (s : OfonoPhonebook) : OfonoPhonebook :=
  exportPhonebook
    { s with
      vcards := s.vcards ++ s.mergeList.reverse.flatMap printMergedEntry
      mergeList := []
      storageIndex := s.storageIndex + 1 }

/-- `import_entries`, which refuses a second message in the name of the first. -/
def importEntries (s : OfonoPhonebook) (msg : ℕ) : OfonoPhonebook :=
  match s.pending with
  | some pending => { s with replies := s.replies ++ [(pending, .busy)] }
  | none =>
    if s.cached then { s with replies := s.replies ++ [(msg, .entries s.vcards)] }
    else
      exportPhonebook
        { s with vcards := [], storageIndex := 0, pending := some msg, reported := [] }

/-! ## Inputs -/

/-- What can come to the phonebook. What a driver reports while it exports nothing is passed
over. -/
inductive PhonebookInput
  | importEntries
  | entry (entry : PhonebookEntry)
  | exported (error : Bool)

/-- An entry of the storage that is being exported. -/
def report (s : OfonoPhonebook) (entry : PhonebookEntry) : OfonoPhonebook :=
  { s with
    reported := s.reported.dropLast ++ [s.reported.getLast?.getD [] ++ [entry]] }

def step (s : OfonoPhonebook) : PhonebookInput → Option OfonoPhonebook
  | .importEntries => some (importEntries { s with received := s.received + 1 } s.received)
  | .entry entry => if s.exporting then some (phonebookEntry (report s entry) entry) else some s
  | .exported _ =>
    if s.exporting then some (exportPhonebookCb { s with exporting := false }) else some s

end OfonoPhonebook

end Phonelets.Phonebook
