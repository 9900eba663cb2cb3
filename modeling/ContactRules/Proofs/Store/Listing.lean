/-
This file proves that a store keeps the last rule under each identifier and lists rules in one order.
-/

import ContactRules.Proofs.Store.History
import ContactRules.Proofs.Text.ByteOrder

namespace ContactRules

/-- The lists that a store gives of a pipeline. -/
inductive Listing where
  | whole
  | listeners (trigger : Trigger)
  | enabled

namespace Listing

/-- This tells whether a list shows a rule of its pipeline. -/
def shows : Listing → RuleState → Bool
  | whole, _ => true
  | listeners trigger, state => state.trigger = trigger
  | enabled, state => state.enabled

def rules (store : Store) (pipeline : Uuid) : Listing → List Rule
  | whole => store.ofPipeline pipeline
  | listeners trigger => store.listening pipeline trigger
  | enabled => store.enabledIn pipeline

/-- Each list holds the rules of a pipeline that it shows, whichever query asks for it. -/
theorem rules_eq (listing : Listing) (store : Store) (pipeline : Uuid) :
    listing.rules store pipeline =
      store.list fun state => state.pipeline = some pipeline && listing.shows state := by
  cases listing with
  | whole => exact congrArg store.list (funext fun state => (Bool.and_true _).symm)
  | listeners trigger => rfl
  | enabled => rfl

end Listing

namespace RuleState

/-- Rules are in the order of their priority numbers, and rules of one number in the order of the bytes of their
names. -/
def Precedes (left right : RuleState) : Prop :=
  left.priority < right.priority ∨
    left.priority = right.priority ∧ Text.bytes left.name ≤ Text.bytes right.name

/-- The comparison of a store decides the order of rules. -/
theorem comesBefore_iff {left right : RuleState} :
    Store.comesBefore left right = true ↔ left.Precedes right := by
  simp only [Store.comesBefore, Precedes, Bool.or_eq_true, Bool.and_eq_true, decide_eq_true_eq,
    Text.bytes_le_iff]

variable {first second third : RuleState}

/-- The order of rules is transitive. -/
theorem Precedes.trans (before : first.Precedes second) (after : second.Precedes third) :
    first.Precedes third := by
  simp only [Precedes, Text.bytes_le_iff] at *
  rcases before with less | ⟨same, ordered⟩
  · rcases after with alsoLess | ⟨same, _⟩
    · exact Or.inl (UInt32.lt_trans less alsoLess)
    · exact Or.inl (same ▸ less)
  · rw [same]
    exact after.imp_right fun ⟨alsoSame, alsoOrdered⟩ => ⟨alsoSame, String.le_trans ordered alsoOrdered⟩

/-- Any two rules are in order one way or the other. -/
theorem precedes_total (left right : RuleState) : left.Precedes right ∨ right.Precedes left := by
  simp only [Precedes, Text.bytes_le_iff]
  by_cases same : left.priority = right.priority
  · rcases String.le_total left.name right.name with ordered | ordered
    · exact Or.inl (Or.inr ⟨same, ordered⟩)
    · exact Or.inr (Or.inr ⟨same.symm, ordered⟩)
  · exact (UInt32.lt_or_lt_of_ne same).imp Or.inl Or.inl

/-- Rules that precede each other have the same number and the same name. -/
theorem Precedes.antisymm (before : first.Precedes second) (after : second.Precedes first) :
    first.priority = second.priority ∧ first.name = second.name := by
  simp only [Precedes, Text.bytes_le_iff] at *
  rcases before with less | ⟨same, ordered⟩ <;> rcases after with greater | ⟨equal, reversed⟩
  · exact absurd greater (UInt32.lt_asymm less)
  · exact absurd less (equal ▸ UInt32.lt_irrefl _)
  · exact absurd greater (same ▸ UInt32.lt_irrefl _)
  · exact ⟨same, String.le_antisymm ordered reversed⟩

end RuleState

namespace Store

variable {store other : Store} {history otherHistory : List StoreStep}

/-- Each rule precedes those after it. -/
def InOrder (rules : List Rule) : Prop :=
  rules.Pairwise fun left right => left.state.Precedes right.state

/-- Whatever a store lists is in order. -/
theorem list_inOrder (store : Store) (keep : RuleState → Bool) : InOrder (store.list keep) := by
  have transitive (first second third : RuleState) (before : comesBefore first second = true)
      (after : comesBefore second third = true) : comesBefore first third = true := by
    rw [RuleState.comesBefore_iff] at *
    exact before.trans after
  have total (left right : RuleState) : (comesBefore left right || comesBefore right left) = true := by
    rw [Bool.or_eq_true, RuleState.comesBefore_iff, RuleState.comesBefore_iff]
    exact RuleState.precedes_total left right
  rw [InOrder, list, List.pairwise_map]
  exact (List.pairwise_mergeSort transitive total _).imp RuleState.comesBefore_iff.mp

/-- Lists of rules with different identifiers have one order only, if rules of the same number have different
names. -/
theorem InOrder.eq {left right : List Rule} (leftOrdered : InOrder left) (rightOrdered : InOrder right)
    (leftDistinct : (left.map fun rule => rule.state.id).Nodup)
    (rightDistinct : (right.map fun rule => rule.state.id).Nodup)
    (same : ∀ rule, rule ∈ left ↔ rule ∈ right)
    (apart : ∀ rule ∈ left, ∀ twin ∈ left, rule.state.priority = twin.state.priority →
      rule.state.name = twin.state.name → rule = twin) : left = right := by
  -- Two orders of the same rules can differ only in rules that precede each other.
  have nodup {rules : List Rule} (distinct : (rules.map fun rule => rule.state.id).Nodup) : rules.Nodup :=
    List.Pairwise.of_map _ (fun _ _ different equal =>
      different (congrArg (fun rule => rule.state.id) equal)) distinct
  refine List.Perm.eq_of_pairwise (fun rule twin isLeft isRight before after => ?_) leftOrdered rightOrdered
    ((List.perm_ext_iff_of_nodup (nodup leftDistinct) (nodup rightDistinct)).mpr same)
  obtain ⟨priority, name⟩ := before.antisymm after
  exact apart rule isLeft twin ((same twin).mpr isRight) priority name

/-- A list shows the states that were saved last and pass its test. -/
theorem Reached.mem_rules (reached : Reached history store) {listing : Listing} {pipeline : Uuid} {rule : Rule} :
    rule ∈ listing.rules store pipeline ↔
      ∃ saved, lastSaved history saved.id = some saved ∧ saved.pipeline = some pipeline ∧
        listing.shows saved = true ∧ rule = Rule.ofState saved := by
  simp only [Listing.rules_eq, mem_list, Bool.and_eq_true, decide_eq_true_eq, reached.find?]
  constructor
  · rintro ⟨isSaved, ⟨ofPipeline, shown⟩, same⟩
    exact ⟨rule.state, isSaved, ofPipeline, shown, same⟩
  · rintro ⟨saved, isSaved, ofPipeline, shown, rfl⟩
    exact ⟨isSaved, ⟨ofPipeline, shown⟩, rfl⟩

/-- No two rules of a pipeline have the same priority number and the same name. -/
def NamesApart (history : List StoreStep) (pipeline : Uuid) : Prop :=
  ∀ saved twin, lastSaved history saved.id = some saved → lastSaved history twin.id = some twin →
    saved.pipeline = some pipeline → twin.pipeline = some pipeline →
    saved.priority = twin.priority → saved.name = twin.name → saved.id = twin.id

/-- Where no two rules have the same number and name, these two tell which rule of a list is meant. -/
theorem Reached.apart (reached : Reached history store) {pipeline : Uuid} (apart : NamesApart history pipeline)
    {listing : Listing} {rule twin : Rule} (listed : rule ∈ listing.rules store pipeline)
    (alsoListed : twin ∈ listing.rules store pipeline) (priority : rule.state.priority = twin.state.priority)
    (name : rule.state.name = twin.state.name) : rule = twin := by
  obtain ⟨saved, isSaved, ofPipeline, _, rfl⟩ := reached.mem_rules.mp listed
  obtain ⟨other, otherSaved, alsoOfPipeline, _, rfl⟩ := reached.mem_rules.mp alsoListed
  have same := apart saved other isSaved otherSaved ofPipeline alsoOfPipeline priority name
  rw [same, otherSaved] at isSaved
  exact congrArg Rule.ofState (Option.some.inj isSaved).symm

/-- A list of a pipeline is in order. -/
theorem rules_inOrder (listing : Listing) (store : Store) (pipeline : Uuid) :
    InOrder (listing.rules store pipeline) :=
  listing.rules_eq store pipeline ▸ store.list_inOrder _

/-- A list of a pipeline shows no rule twice. -/
theorem rules_distinct (listing : Listing) (store : Store) (pipeline : Uuid) :
    ((listing.rules store pipeline).map fun rule => rule.state.id).Nodup :=
  listing.rules_eq store pipeline ▸ store.list_distinct _

/-- A rule is found as it was saved last, unless it was never saved or has been deleted since. -/
theorem Reached.find (reached : Reached history store) (id : Uuid) :
    store.find id = match lastSaved history id with
      | some saved => .ok (Rule.ofState saved)
      | none => .error (.notFound id) :=
  reached.find? id ▸ rfl

/-- A rule that is not there cannot be deleted. -/
theorem Reached.delete_missing (reached : Reached history store) {id : Uuid}
    (missing : lastSaved history id = none) : store.delete id = .error (.notFound id) := by
  have absent : store.states.has id = false := by rw [Roster.has, reached.find?, missing]; rfl
  rw [delete, absent]
  rfl

/-- Stores that keep the same states give the same lists, whatever their histories. -/
theorem Reached.rules_congr (reached : Reached history store) (otherReached : Reached otherHistory other)
    (same : ∀ id, lastSaved otherHistory id = lastSaved history id) {pipeline : Uuid}
    (apart : NamesApart history pipeline) (listing : Listing) :
    listing.rules other pipeline = listing.rules store pipeline := by
  refine ((rules_inOrder listing store pipeline).eq (rules_inOrder listing other pipeline)
    (rules_distinct listing store pipeline) (rules_distinct listing other pipeline) (fun rule => ?_)
    fun _ listed _ => reached.apart apart listed).symm
  simp only [reached.mem_rules, otherReached.mem_rules, same]

/-- Each list is a part of the whole list, in the same order. -/
theorem Reached.rules_eq_filter (reached : Reached history store) {pipeline : Uuid}
    (apart : NamesApart history pipeline) (listing : Listing) :
    listing.rules store pipeline =
      (store.ofPipeline pipeline).filter fun rule => listing.shows rule.state := by
  have whole : store.ofPipeline pipeline = Listing.whole.rules store pipeline := rfl
  have part : ((store.ofPipeline pipeline).filter fun rule => listing.shows rule.state).Sublist
      (store.ofPipeline pipeline) := List.filter_sublist
  refine (rules_inOrder listing store pipeline).eq
    ((rules_inOrder Listing.whole store pipeline).sublist part) (rules_distinct listing store pipeline)
    ((rules_distinct Listing.whole store pipeline).sublist (part.map _)) (fun rule => ?_)
    fun _ listed _ => reached.apart apart listed
  rw [List.mem_filter, whole, reached.mem_rules, reached.mem_rules]
  constructor
  · rintro ⟨saved, isSaved, ofPipeline, shown, rfl⟩
    exact ⟨⟨saved, isSaved, ofPipeline, rfl, rfl⟩, shown⟩
  · rintro ⟨⟨saved, isSaved, ofPipeline, _, rfl⟩, shown⟩
    exact ⟨saved, isSaved, ofPipeline, shown, rfl⟩

/-- A store keeps under each identifier what was saved last, and only that. Whatever is not kept cannot be
deleted. Each list of a pipeline has the kept rules that pass its test, each of them once, in order and without
events. If names tell the rules of one number apart, then a list depends on nothing but the kept rules, and it is
a part of the whole list of the pipeline. -/
theorem Reached.last_write_wins (reached : Reached history store) :
    (∀ id, store.find id = match lastSaved history id with
      | some saved => .ok (Rule.ofState saved)
      | none => .error (.notFound id)) ∧
    (∀ id, lastSaved history id = none →
      store.delete id = .error (.notFound id) ∧ store.step (.delete id) = store) ∧
    (∀ (listing : Listing) (pipeline : Uuid),
      (∀ rule, rule ∈ listing.rules store pipeline ↔
        ∃ saved, lastSaved history saved.id = some saved ∧ saved.pipeline = some pipeline ∧
          listing.shows saved = true ∧ rule = Rule.ofState saved) ∧
      ((listing.rules store pipeline).map fun rule => rule.state.id).Nodup ∧
      InOrder (listing.rules store pipeline) ∧
      ∀ rule ∈ listing.rules store pipeline,
        rule.pendingEvents = [] ∧ lastSaved history rule.state.id = some rule.state) ∧
    ∀ pipeline, NamesApart history pipeline → ∀ listing : Listing,
      (∀ otherHistory other, Reached otherHistory other →
        (∀ id, lastSaved otherHistory id = lastSaved history id) →
        listing.rules other pipeline = listing.rules store pipeline) ∧
      listing.rules store pipeline =
        (store.ofPipeline pipeline).filter fun rule => listing.shows rule.state := by
  refine ⟨reached.find, fun id missing => ?_, fun listing pipeline => ⟨fun _ => reached.mem_rules,
    rules_distinct listing store pipeline, rules_inOrder listing store pipeline, fun rule listed => ?_⟩,
    fun pipeline apart listing => ⟨fun _ _ otherReached same =>
      reached.rules_congr otherReached same apart listing, reached.rules_eq_filter apart listing⟩⟩
  · have refused := reached.delete_missing missing
    exact ⟨refused, by rw [Store.step, refused]; rfl⟩
  · obtain ⟨saved, isSaved, _, _, rfl⟩ := reached.mem_rules.mp listed
    exact ⟨rfl, isSaved⟩

/-- A rule of one pipeline. -/
def placedRule (id : Uuid) (name : String) (priority : UInt32) : Rule :=
  Rule.ofState ⟨id, .custom, some ⟨9⟩, "tenant", name, "", .tagAdded, [], [], priority, true, .epoch, .epoch⟩

/-- Here a rule is saved twice, another is deleted, and one is deleted that is no longer there. -/
def detour : List StoreStep :=
  [.save (placedRule ⟨1⟩ "draft" 7), .save (placedRule ⟨3⟩ "third" 0), .save (placedRule ⟨2⟩ "second" 1),
    .delete ⟨3⟩, .save (placedRule ⟨1⟩ "first" 1), .delete ⟨3⟩]

/-- This saves only what is left after the detour, in another order. -/
def shortcut : List StoreStep :=
  [.save (placedRule ⟨2⟩ "second" 1), .save (placedRule ⟨1⟩ "first" 1)]

/-- The detour leaves what the shortcut leaves, and both are listed in the same order. -/
theorem detour_lists :
    (replay detour).find ⟨1⟩ = .ok (placedRule ⟨1⟩ "first" 1) ∧
      (replay detour).delete ⟨3⟩ = .error (.notFound ⟨3⟩) ∧
      placedRule ⟨2⟩ "second" 1 ∈ (replay detour).ofPipeline ⟨9⟩ ∧
      (replay shortcut).ofPipeline ⟨9⟩ = (replay detour).ofPipeline ⟨9⟩ := by
  have reached := reached_replay detour
  have swapped : (replay detour).states.members.Perm (replay shortcut).states.members :=
    List.Perm.swap (placedRule ⟨2⟩ "second" 1).state (placedRule ⟨1⟩ "first" 1).state []
  have same (id : Uuid) : lastSaved shortcut id = lastSaved detour id :=
    ((reached_replay shortcut).find? id).symm.trans ((reached.rearranged swapped).find? id)
  have apart : NamesApart detour ⟨9⟩ := by
    intro saved twin isSaved twinSaved _ _
    rw [← reached.find?] at isSaved twinSaved
    have noTwins : ∀ saved ∈ (replay detour).states.members, ∀ twin ∈ (replay detour).states.members,
        saved.priority = twin.priority → saved.name = twin.name → saved.id = twin.id := by decide
    exact noTwins saved (Roster.mem_of_find? isSaved) twin (Roster.mem_of_find? twinSaved)
  obtain ⟨found, missing, listed, unique⟩ := reached.last_write_wins
  exact ⟨found ⟨1⟩, (missing ⟨3⟩ rfl).1, ((listed .whole ⟨9⟩).1 _).mpr ⟨_, rfl, rfl, rfl, rfl⟩,
    (unique ⟨9⟩ apart .whole).1 shortcut _ (reached_replay shortcut) same⟩

end Store

end ContactRules
