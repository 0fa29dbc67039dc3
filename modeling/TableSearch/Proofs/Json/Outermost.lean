import Mathlib.Data.List.Basic
import TableSearch.Json.Read

/-!
# The outermost value of a JSON text

The first token of a text tells whether its value is a list or an object: what opened first stays
outside of all that is read later. Main statement: `Json.container?_of_read`.
-/

namespace TableSearch

/-- Steps in a row succeed where each of them does. -/
theorem exists_of_bind_eq_ok {Cause First Second : Type} {first : Except Cause First}
    {later : First → Except Cause Second} {result : Second}
    (succeeds : first >>= later = .ok result) :
    ∃ value, first = .ok value ∧ later value = .ok result := by
  cases first with
  | error cause => cases succeeds
  | ok value => exact ⟨value, rfl, succeeds⟩

namespace Json

/-- The kinds of values that hold other values. -/
inductive Container where
  | list
  | object
deriving DecidableEq

/-- The kind of a value, if it holds other values. -/
def container? : Json → Option Container
  | .array _ => some .list
  | .object _ => some .object
  | _ => none

/-- The kind of the value that begins with a token. -/
def Token.container? : Token → Option Container
  | .openList => some .list
  | .openObject => some .object
  | .scalar value => value.container?
  | _ => none

/-- The kind of the value that a frame becomes. -/
def Frame.container : Frame → Container
  | .list _ => .list
  | .object _ _ => .object

namespace Unfinished

/-- The kind of the outermost of the open values, the innermost of which may be `inner`. -/
def outermost? (inner : Option Container) (outer : List Frame) : Option Container :=
  (outer.getLast?.map Frame.container).or inner

/-- The kind of the value that will have been read. -/
def root? : Unfinished → Option Container
  | .value outer => outermost? none outer
  | .firstItem outer => outermost? (some .list) outer
  | .afterItem _ outer => outermost? (some .list) outer
  | .firstKey outer => outermost? (some .object) outer
  | .nextKey _ outer => outermost? (some .object) outer
  | .colon _ _ outer => outermost? (some .object) outer
  | .afterField _ outer => outermost? (some .object) outer
  | .complete result => result.container?

/-- Something has been read. -/
def Begun (progress : Unfinished) : Prop :=
  progress ≠ .value []

private theorem outermost?_cons (inner : Option Container) (frame : Frame) (outer : List Frame) :
    outermost? inner (frame :: outer) = outermost? (some frame.container) outer := by
  rw [outermost?, outermost?, List.getLast?_cons]
  cases outer.getLast? with
  | none => rfl
  | some last => rfl

/-- Where something is open, the outermost value does not hang on what is inside. -/
theorem outermost?_congr {outer : List Frame} (isOpen : outer ≠ [])
    (first second : Option Container) : outermost? first outer = outermost? second outer := by
  cases outer with
  | nil => exact absurd rfl isOpen
  | cons frame outer => rw [outermost?_cons, outermost?_cons]

private theorem begun_value_cons (frame : Frame) (outer : List Frame) :
    (value (frame :: outer)).Begun :=
  fun same => List.cons_ne_nil _ _ (Unfinished.value.inj same)

/-- A value that is complete leaves the outermost value as it was. -/
theorem root?_finish (result : Json) (outer : List Frame) :
    (finish result outer).root? = outermost? result.container? outer ∧
      (finish result outer).Begun := by
  cases outer with
  | nil => exact ⟨rfl, Unfinished.noConfusion⟩
  | cons frame outer =>
      rw [outermost?_cons]
      cases frame with
      | list items => exact ⟨rfl, Unfinished.noConfusion⟩
      | object fields key => exact ⟨rfl, Unfinished.noConfusion⟩

/-- The token at which a value begins tells its kind. -/
theorem root?_stepValue {place : PlacedToken} {outer : List Frame} {next : Unfinished}
    (stepped : stepValue place outer = .ok next) :
    next.root? = outermost? place.token.container? outer ∧ next.Begun := by
  unfold stepValue at stepped
  split at stepped
  next text isString =>
    cases stepped
    rw [isString]
    exact root?_finish (.string text) outer
  next result isScalar =>
    cases stepped
    rw [isScalar]
    exact root?_finish result outer
  next => cases stepped
  next => cases stepped
  next isOpen =>
    split at stepped
    · cases stepped
      rw [isOpen]
      exact ⟨rfl, Unfinished.noConfusion⟩
    · cases stepped
  next isOpen =>
    split at stepped
    · cases stepped
      rw [isOpen]
      exact ⟨rfl, Unfinished.noConfusion⟩
    · cases stepped
  next =>
    split at stepped
    · cases stepped
    · cases stepped
  next => cases stepped

private theorem root?_stepKey {place : PlacedToken} {fields : List (Text × Json)}
    {outer : List Frame} {next : Unfinished} (stepped : stepKey place fields outer = .ok next) :
    next.root? = outermost? (some .object) outer ∧ next.Begun := by
  unfold stepKey at stepped
  split at stepped
  · cases stepped
    exact ⟨rfl, Unfinished.noConfusion⟩
  all_goals cases stepped

/-- Once something has been read, the kind of the outermost value stays. -/
theorem root?_step {progress next : Unfinished} {place : PlacedToken} (begun : progress.Begun)
    (stepped : progress.step place = .ok next) : next.root? = progress.root? ∧ next.Begun := by
  cases progress with
  | value outer =>
      have isOpen : outer ≠ [] := fun nothing => begun (congrArg Unfinished.value nothing)
      obtain ⟨root, nextBegun⟩ := root?_stepValue stepped
      exact ⟨root.trans (outermost?_congr isOpen _ _), nextBegun⟩
  | firstItem outer =>
      simp only [step] at stepped
      split at stepped
      · cases stepped
        exact root?_finish (.array []) outer
      · obtain ⟨root, nextBegun⟩ := root?_stepValue stepped
        exact ⟨root.trans (outermost?_cons _ _ outer), nextBegun⟩
  | afterItem items outer =>
      simp only [step] at stepped
      split at stepped
      · cases stepped
        exact ⟨outermost?_cons _ _ outer, begun_value_cons _ _⟩
      · cases stepped
        exact root?_finish (.array items.reverse) outer
      · cases stepped
  | firstKey outer =>
      simp only [step] at stepped
      split at stepped
      · cases stepped
        exact root?_finish (.object []) outer
      · exact root?_stepKey stepped
  | nextKey fields outer => exact root?_stepKey stepped
  | colon fields key outer =>
      simp only [step] at stepped
      split at stepped
      · cases stepped
        exact ⟨outermost?_cons _ _ outer, begun_value_cons _ _⟩
      · cases stepped
  | afterField fields outer =>
      simp only [step] at stepped
      split at stepped
      · cases stepped
        exact ⟨rfl, Unfinished.noConfusion⟩
      · cases stepped
        exact root?_finish (.object fields) outer
      · cases stepped
  | complete result => cases stepped

/-- Whatever is read after the first token, the kind of the outermost value stays. -/
theorem root?_foldlM {progress last : Unfinished} {places : List PlacedToken}
    (begun : progress.Begun) (read : places.foldlM step progress = .ok last) :
    last.root? = progress.root? := by
  induction places generalizing progress with
  | nil =>
      cases read
      rfl
  | cons place rest ih =>
      rw [List.foldlM_cons] at read
      obtain ⟨next, stepped, readRest⟩ := exists_of_bind_eq_ok read
      obtain ⟨root, nextBegun⟩ := root?_step begun stepped
      exact (ih nextBegun readRest).trans root

end Unfinished

/-- The first token of a text tells whether its value is a list or an object. -/
theorem container?_of_read {text : Text} {value : Json} (isRead : read text = .ok value) :
    ∃ first rest, tokens text = first :: rest ∧ first.token.container? = value.container? := by
  obtain ⟨last, folded, closed⟩ := exists_of_bind_eq_ok isRead
  have isComplete : last = .complete value := by
    cases last with
    | complete result => exact congrArg Unfinished.complete (Except.ok.inj closed)
    | _ => cases closed
  cases isTokens : tokens text with
  | nil =>
      rw [isTokens] at folded
      cases folded
      cases closed
  | cons first rest =>
      refine ⟨first, rest, rfl, ?_⟩
      rw [isTokens, List.foldlM_cons] at folded
      obtain ⟨next, stepped, foldedRest⟩ := exists_of_bind_eq_ok folded
      obtain ⟨root, begun⟩ := Unfinished.root?_stepValue stepped
      have kept := Unfinished.root?_foldlM begun foldedRest
      rw [isComplete, root] at kept
      exact kept.symm

/-- A reading gives no value that holds others. -/
def IsPlain (run : Except Fault (Json × Text)) : Prop :=
  ∀ result rest, run = .ok (result, rest) → result.container? = none

private theorem isPlain_error (fault : Fault) : IsPlain (.error fault) := by
  intro result rest isOk
  cases isOk

private theorem isPlain_ok {value : Json} (plain : value.container? = none) (rest : Text) :
    IsPlain (.ok (value, rest)) := by
  intro result behind isOk
  cases isOk
  exact plain

private theorem isPlain_readLiteral {value : Json} (plain : value.container? = none)
    (word text : Text) : IsPlain (readLiteral value word text) := by
  induction word generalizing text with
  | nil => exact isPlain_ok plain text
  | cons expected more ih =>
      cases text with
      | nil => exact isPlain_error _
      | cons character rest =>
          rw [readLiteral]
          split
          · exact ih rest
          · exact isPlain_error _

private theorem isPlain_decimalOf (negative : Bool) (significand : Nat) (exponent : Int)
    (rest : Text) : IsPlain (decimalOf negative significand exponent rest) := by
  unfold decimalOf
  split
  · exact isPlain_ok rfl rest
  · exact isPlain_error _

private theorem isPlain_readExponent (negative : Bool) (significand : Nat) (exponent : Int)
    (text : Text) : IsPlain (readExponent negative significand exponent text) := by
  unfold readExponent
  dsimp only
  split
  · exact isPlain_error _
  split_ifs
  · exact isPlain_decimalOf _ _ _ _
  · exact isPlain_decimalOf _ _ _ _
  · exact isPlain_error _

private theorem isPlain_readDecimalEnd (negative : Bool) (significand : Nat) (exponent : Int)
    (text : Text) : IsPlain (readDecimalEnd negative significand exponent text) := by
  unfold readDecimalEnd
  split
  · exact isPlain_readExponent _ _ _ _
  · exact isPlain_readExponent _ _ _ _
  · exact isPlain_decimalOf _ _ _ _

private theorem isPlain_readFraction (negative : Bool) (significand : Nat) (exponent : Int)
    (text : Text) : IsPlain (readFraction negative significand exponent text) := by
  unfold readFraction
  dsimp only
  split
  · split
    · exact isPlain_error _
    · exact isPlain_error _
  · exact isPlain_readDecimalEnd _ _ _ _

private theorem isPlain_readNumber (negative : Bool) (text : Text) :
    IsPlain (readNumber negative text) := by
  cases text with
  | nil => exact isPlain_error _
  | cons first more =>
      unfold readNumber
      dsimp only
      split
      · exact isPlain_error _
      split
      · exact isPlain_error _
      split
      · exact isPlain_readFraction _ _ _ _
      split_ifs
      · exact isPlain_ok rfl _
      · exact isPlain_ok rfl _
      · exact isPlain_ok rfl _
      · exact isPlain_readDecimalEnd _ _ _ _

/-- A word or a number is no value that holds others. -/
theorem IsPlain.container?_of_scalarToken {run : Except Fault (Json × Text)} (plain : IsPlain run)
    {value : Json} (isScalar : (scalarToken run).1 = .scalar value) : value.container? = none := by
  cases run with
  | error fault => cases isScalar
  | ok pair =>
      obtain ⟨result, rest⟩ := pair
      cases isScalar
      exact plain value rest rfl

/-- A token that is a value of its own holds no other values. -/
theorem container?_of_readToken {character : Char} {rest : Text} {value : Json}
    (isScalar : (readToken character rest).1 = .scalar value) : value.container? = none := by
  unfold readToken at isScalar
  split at isScalar
  case h_7 => split at isScalar <;> cases isScalar
  case h_8 => exact (isPlain_readLiteral rfl _ rest).container?_of_scalarToken isScalar
  case h_9 => exact (isPlain_readLiteral rfl _ rest).container?_of_scalarToken isScalar
  case h_10 => exact (isPlain_readLiteral rfl _ rest).container?_of_scalarToken isScalar
  case h_11 => exact (isPlain_readNumber true rest).container?_of_scalarToken isScalar
  case h_12 =>
    split at isScalar
    · exact (isPlain_readNumber false _).container?_of_scalarToken isScalar
    · cases isScalar
  all_goals cases isScalar

/-- A token of a text that is a value holds no other values. -/
theorem container?_of_mem_tokensIn {steps : Nat} {text : Text} {place : PlacedToken} {value : Json}
    (member : place ∈ tokensIn steps text) (isScalar : place.token = .scalar value) :
    value.container? = none := by
  induction steps generalizing text with
  | zero => cases member
  | succ steps ih =>
      cases text with
      | nil => cases member
      | cons character rest =>
          rw [tokensIn] at member
          split at member
          · exact ih member
          · rcases List.mem_cons.mp member with rfl | behind
            · exact container?_of_readToken isScalar
            · exact ih behind

/-- A text whose value is an object begins with its opening brace. -/
theorem openObject_of_read {text : Text} {fields : List (Text × Json)}
    (isRead : read text = .ok (.object fields)) :
    ∃ first rest, tokens text = first :: rest ∧ first.token = .openObject := by
  obtain ⟨first, rest, isTokens, isObject⟩ := container?_of_read isRead
  refine ⟨first, rest, isTokens, ?_⟩
  cases isToken : first.token with
  | openObject => rfl
  | scalar value =>
      have member : first ∈ tokens text := isTokens ▸ List.mem_cons_self
      have plain := container?_of_mem_tokensIn member isToken
      rw [isToken, Token.container?, plain] at isObject
      cases isObject
  | _ =>
      rw [isToken] at isObject
      cases isObject

end Json

end TableSearch
