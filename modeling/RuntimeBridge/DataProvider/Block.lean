import Mathlib.Data.List.Basic

/-! Fetched blocks as the block store returns them, and the two chains that the
window loop reads through `waitForParentBlock` and `waitForParaBlock`. -/

namespace RuntimeBridge.DataProvider

/-- A value as the types library encodes it. -/
abbrev Bytes := List UInt8

structure HeaderToSync where
  header : Bytes
  justification : Option Bytes
  deriving DecidableEq

/-- A relay chain block.  The three facts `processParentBlock` establishes when
it assembles a block stay with the value. -/
structure ParentBlock where
  number : Nat
  header : Bytes
  setId : Nat
  hasJustification : Bool
  syncHeaderData : HeaderToSync
  authoritySetChange : Option Bytes
  paraNumber : Nat
  paraProof : List Bytes
  sync_header : syncHeaderData.header = header
  justified_iff : hasJustification = syncHeaderData.justification.isSome
  authority_iff : authoritySetChange.isSome = hasJustification

structure ParaBlock where
  number : Nat
  header : Bytes
  dispatchBlockData : Bytes
  deriving DecidableEq

structure Genesis where
  paraNumber : Nat
  parentNumber : Nat
  deriving DecidableEq

structure ParentAnswers where
  header : Bytes
  justifications : Option (List (String × Bytes))
  setId : Nat
  paraNumber : Nat
  paraProof : List Bytes
  /-- `AuthoritySetChange` of the authorities and their proof at this block. -/
  authoritySet : Bytes

def FRNK : String := "0x46524e4b"

/-- `createJustification` is the types library's `JustificationToSync`. -/
def processParentBlock (createJustification : Bytes → Option Bytes)
    (number : Nat) (answers : ParentAnswers) : ParentBlock :=
  let justification := answers.justifications.bind fun list =>
    createJustification
      (list.foldl (fun acc current =>
        if current.1 = FRNK then current.2 else acc) [])
  { number
    header := answers.header
    setId := answers.setId
    hasJustification := justification.isSome
    syncHeaderData := { header := answers.header, justification }
    authoritySetChange :=
      if justification.isSome then some answers.authoritySet else none
    paraNumber := answers.paraNumber
    paraProof := answers.paraProof
    sync_header := rfl
    justified_iff := rfl
    authority_iff := by cases justification <;> rfl }

/-- Both chains as the block store eventually holds them.  A walker that asks
for a block which is not stored yet waits for it. -/
structure Chain where
  genesis : Genesis
  parent : Nat → ParentBlock
  para : Nat → ParaBlock
  parent_number : ∀ number, (parent number).number = number
  para_number : ∀ number, (para number).number = number

namespace Chain

variable (chain : Chain)

def Justified (number : Nat) : Prop :=
  (chain.parent number).hasJustification = true

instance (number : Nat) : Decidable (chain.Justified number) :=
  inferInstanceAs (Decidable (_ = true))

def SetIdGrows (number : Nat) : Prop :=
  (chain.parent (number - 1)).setId < (chain.parent number).setId

instance (number : Nat) : Decidable (chain.SetIdGrows number) :=
  inferInstanceAs (Decidable (_ < _))

/-- The relay chain justifies every block that changes the authority set. -/
def Grandpa : Prop :=
  ∀ number, chain.genesis.parentNumber < number →
    chain.SetIdGrows number → chain.Justified number

def fetched (genesis : Genesis) (answers : Nat → ParentAnswers) : Chain where
  genesis
  parent number := processParentBlock some number (answers number)
  para number :=
    { number, header := [UInt8.ofNat number], dispatchBlockData := [] }
  parent_number := fun _ => rfl
  para_number := fun _ => rfl

/-- The set changes at every block whose number `blocks` divides. -/
def setsEvery (blocks : Nat) : Chain :=
  fetched { paraNumber := 0, parentNumber := 0 } fun number =>
    { header := [], justifications := some [(FRNK, [])]
      setId := number / blocks, paraNumber := 0, paraProof := []
      authoritySet := [] }

end Chain

end RuntimeBridge.DataProvider
