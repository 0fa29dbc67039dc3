import Mathlib.Data.List.Induction
import TableSearch.Proofs.Text.OrderedMap
import TableSearch.UnitTable

/-!
# Which unit has a spelling

An entry of a source claims its spellings, and a table gives each of them to the last entry that
claims it. Where the entries stand in the order of their names, this is the one with the greatest
name.
-/

namespace TableSearch

open Text

namespace UnitEntry

/-- The unit that an entry lists. -/
def unit (entry : UnitEntry) : UnitId :=
  ⟨Text.normalize entry.canonical⟩

/-- An entry with a canonical name claims a spelling in normal form. -/
def Claims (entry : UnitEntry) (spelling : Text) : Prop :=
  Text.normalize entry.canonical ≠ [] ∧ spelling ∈ entry.spellings

instance (entry : UnitEntry) (spelling : Text) : Decidable (entry.Claims spelling) :=
  inferInstanceAs (Decidable (_ ∧ _))

private theorem Claims.ne_nil {entry : UnitEntry} {spelling : Text}
    (claims : entry.Claims spelling) : spelling ≠ [] := by
  obtain ⟨-, member⟩ := claims
  obtain ⟨-, nonempty⟩ := List.mem_filter.mp member
  rintro rfl
  cases nonempty

end UnitEntry

/-- An entry claims a spelling, and none of those behind it does. -/
def IsLastClaim (entries : List UnitEntry) (spelling : Text) (entry : UnitEntry) : Prop :=
  ∃ earlier later, entries = earlier ++ entry :: later ∧ entry.Claims spelling ∧
    ∀ other ∈ later, ¬other.Claims spelling

/-- An entry claims a spelling, and all others that do so have names that come before its name. -/
def IsGreatestClaim (entries : List UnitEntry) (spelling : Text) (entry : UnitEntry) : Prop :=
  entry ∈ entries ∧ entry.Claims spelling ∧
    ∀ other ∈ entries, other.Claims spelling →
      other = entry ∨ precedes other.canonical entry.canonical = true

/-- An entry at the end has its claims; the last claims to other spellings are those before it. -/
theorem isLastClaim_append_singleton {entries : List UnitEntry} {last entry : UnitEntry}
    {spelling : Text} : IsLastClaim (entries ++ [last]) spelling entry ↔
      if last.Claims spelling then entry = last else IsLastClaim entries spelling entry := by
  constructor
  · rintro ⟨earlier, later, cut, claims, noneBehind⟩
    rcases List.eq_nil_or_concat later with rfl | ⟨between, final, rfl⟩
    · obtain ⟨-, isLast⟩ := List.append_inj' cut rfl
      obtain rfl := List.singleton_inj.mp isLast
      rw [if_pos claims]
    · rw [List.concat_eq_append] at cut noneBehind
      rw [← List.cons_append, ← List.append_assoc] at cut
      obtain ⟨rfl, isFinal⟩ := List.append_inj' cut rfl
      obtain rfl := List.singleton_inj.mp isFinal
      rw [if_neg (noneBehind last (List.mem_append_right _ List.mem_cons_self))]
      exact ⟨earlier, between, rfl, claims, fun other member =>
        noneBehind other (List.mem_append_left _ member)⟩
  · intro isLast
    split at isLast
    next claims =>
      subst isLast
      exact ⟨entries, [], rfl, claims, fun other member => absurd member List.not_mem_nil⟩
    next noClaim =>
      obtain ⟨earlier, later, rfl, claims, noneBehind⟩ := isLast
      refine ⟨earlier, later ++ [last], List.append_assoc .., claims, fun other member => ?_⟩
      rcases List.mem_append.mp member with between | isLast
      · exact noneBehind other between
      · rwa [List.mem_singleton.mp isLast]

/-- Where entries claim a spelling, one of them is the last. -/
theorem exists_isLastClaim {entries : List UnitEntry} {entry : UnitEntry} {spelling : Text}
    (member : entry ∈ entries) (claims : entry.Claims spelling) :
    ∃ last, IsLastClaim entries spelling last := by
  induction entries using List.reverseRecOn with
  | nil => cases member
  | append_singleton entries final ih =>
      simp only [isLastClaim_append_singleton]
      by_cases finalClaims : final.Claims spelling
      · exact ⟨final, by rw [if_pos finalClaims]⟩
      · simp only [finalClaims, ↓reduceIte]
        rcases List.mem_append.mp member with before | isFinal
        · exact ih before
        · exact absurd (List.mem_singleton.mp isFinal ▸ claims) finalClaims

theorem IsLastClaim.mem {entries : List UnitEntry} {entry : UnitEntry} {spelling : Text}
    (isLast : IsLastClaim entries spelling entry) : entry ∈ entries := by
  obtain ⟨earlier, later, rfl, -⟩ := isLast
  exact List.mem_append_right _ List.mem_cons_self

theorem IsLastClaim.claims {entries : List UnitEntry} {entry : UnitEntry} {spelling : Text}
    (isLast : IsLastClaim entries spelling entry) : entry.Claims spelling := by
  obtain ⟨earlier, later, -, claims, -⟩ := isLast
  exact claims

/-- Of entries in the order of their names, the last that claims a spelling has the greatest name,
in whatever order they are given. -/
theorem isLastClaim_iff_isGreatestClaim {sorted entries : List UnitEntry}
    (ascending : sorted.Pairwise fun first other => precedes first.canonical other.canonical = true)
    (perm : sorted.Perm entries) {spelling : Text} {entry : UnitEntry} :
    IsLastClaim sorted spelling entry ↔ IsGreatestClaim entries spelling entry := by
  simp only [IsGreatestClaim, ← perm.mem_iff]
  constructor
  · rintro ⟨earlier, later, rfl, claims, noneBehind⟩
    have below := (List.pairwise_append.mp ascending).2.2
    refine ⟨List.mem_append_right _ List.mem_cons_self, claims, fun other member isClaim => ?_⟩
    rcases List.mem_append.mp member with before | behind
    · exact .inr (below other before entry List.mem_cons_self)
    · rcases List.mem_cons.mp behind with same | behind
      · exact .inl same
      · exact absurd isClaim (noneBehind other behind)
  · rintro ⟨member, claims, greatest⟩
    obtain ⟨earlier, later, rfl⟩ := List.append_of_mem member
    have below := (List.pairwise_cons.mp (List.pairwise_append.mp ascending).2.1).1
    refine ⟨earlier, later, rfl, claims, fun other behind isClaim => ?_⟩
    have entryBelow := below other behind
    rcases greatest other (List.mem_append_right _ (List.mem_cons_of_mem _ behind)) isClaim with
      same | otherBelow
    · rw [same, precedes_self] at entryBelow
      cases entryBelow
    · have before := precedes_trans entryBelow otherBelow
      rw [precedes_self] at before
      cases before

namespace OrderedMap

/-- Keys written with one value have it; every other key keeps its value. -/
theorem get?_foldl_insert {Value : Type} (map : OrderedMap Value) (keys : List Text) (value : Value)
    (key : Text) :
    (keys.foldl (fun map key => map.insert key value) map).get? key =
      if key ∈ keys then some value else map.get? key := by
  induction keys generalizing map with
  | nil => rfl
  | cons first rest ih =>
      rw [List.foldl_cons, ih, get?_insert]
      by_cases behind : key ∈ rest
      · rw [if_pos behind, if_pos (List.mem_cons_of_mem _ behind)]
      · simp only [behind, ↓reduceIte, List.mem_cons, or_false, eq_comm]

end OrderedMap

namespace UnitTable

/-- An entry takes the spellings that it claims; every other spelling stays with its unit. -/
theorem get?_addEntry (table : UnitTable) (entry : UnitEntry) (spelling : Text) :
    (table.addEntry entry).spellings.get? spelling =
      if entry.Claims spelling then some entry.unit else table.spellings.get? spelling := by
  by_cases nameless : Text.normalize entry.canonical = []
  · have noClaim : ¬entry.Claims spelling := fun claims => claims.1 nameless
    rw [if_neg noClaim, addEntry, nameless]
    rfl
  · have claims : entry.Claims spelling ↔ spelling ∈ entry.spellings := and_iff_right nameless
    simp only [addEntry, List.isEmpty_iff, nameless, ↓reduceIte, claims]
    exact OrderedMap.get?_foldl_insert _ _ _ _

/-- An entry adds the spellings that it claims, and none is taken out. -/
theorem mem_keys_addEntry {table : UnitTable} {entry : UnitEntry} {spelling : Text} :
    spelling ∈ (table.addEntry entry).spellings.keys ↔
      entry.Claims spelling ∨ spelling ∈ table.spellings.keys := by
  simp only [OrderedMap.mem_keys_iff, get?_addEntry]
  by_cases claims : entry.Claims spelling <;> simp [claims]

/-- A spelling belongs to the last entry that claims it. -/
theorem get?_ofEntries {entries : List UnitEntry} {spelling : Text} {unit : UnitId} :
    (ofEntries entries).spellings.get? spelling = some unit ↔
      ∃ entry, IsLastClaim entries spelling entry ∧ entry.unit = unit := by
  induction entries using List.reverseRecOn with
  | nil =>
      constructor
      · intro found
        cases found
      · rintro ⟨entry, ⟨earlier, later, cut, -⟩, -⟩
        exact absurd cut.symm (List.append_ne_nil_of_right_ne_nil _ (List.cons_ne_nil _ _))
  | append_singleton entries last ih =>
      rw [ofEntries, List.foldl_append, List.foldl_cons, List.foldl_nil, get?_addEntry]
      simp only [isLastClaim_append_singleton]
      split
      · rw [exists_eq_left, Option.some.injEq]
      · exact ih

/-- A text resolves to the unit of its normal form, where it has one. -/
theorem resolve_eq_some_iff {table : UnitTable} {text : Text} {unit : UnitId} :
    table.resolve text = some unit ↔
      Text.normalize text ≠ [] ∧ table.spellings.get? (Text.normalize text) = some unit := by
  rw [resolve]
  by_cases blank : Text.normalize text = [] <;> simp [blank]

/-- A text is a spelling of the unit of the last entry that claims its normal form. -/
theorem resolve_ofEntries_eq_some_iff {entries : List UnitEntry} {text : Text} {unit : UnitId} :
    (ofEntries entries).resolve text = some unit ↔
      ∃ entry, IsLastClaim entries (Text.normalize text) entry ∧ entry.unit = unit := by
  rw [resolve_eq_some_iff, get?_ofEntries]
  refine and_iff_right_of_imp ?_
  rintro ⟨entry, isLast, -⟩
  exact isLast.claims.ne_nil

/-- Two orders of the same entries give the same table where the last claims to each spelling are
for the same unit. -/
theorem ofEntries_eq_iff {first second : List UnitEntry} (perm : first.Perm second) :
    ofEntries first = ofEntries second ↔
      ∀ spelling one other, IsLastClaim first spelling one → IsLastClaim second spelling other →
        one.unit = other.unit := by
  constructor
  · intro same spelling one other isLast isOther
    have ofOne := get?_ofEntries.mpr ⟨one, isLast, rfl⟩
    have ofOther := get?_ofEntries.mpr ⟨other, isOther, rfl⟩
    rw [same, ofOther] at ofOne
    exact (Option.some.inj ofOne).symm
  · intro agree
    have spellings : (ofEntries first).spellings = (ofEntries second).spellings := by
      refine OrderedMap.ext_get? fun spelling => Option.ext fun unit => ?_
      rw [get?_ofEntries, get?_ofEntries]
      constructor
      · rintro ⟨one, isLast, rfl⟩
        obtain ⟨other, isOther⟩ := exists_isLastClaim (perm.mem_iff.mp isLast.mem) isLast.claims
        exact ⟨other, isOther, (agree spelling one other isLast isOther).symm⟩
      · rintro ⟨other, isLast, rfl⟩
        obtain ⟨one, isOne⟩ := exists_isLastClaim (perm.mem_iff.mpr isLast.mem) isLast.claims
        exact ⟨one, isOne, agree spelling one other isOne isLast⟩
    exact congrArg UnitTable.mk spellings

end UnitTable

end TableSearch
