import Scaffold.Proofs.Generation.Layers
import Scaffold.Proofs.Generation.RuleLists
import Scaffold.Proofs.Rules.Edits

/-! The template slot. The statements of a constructor bind it and the values of the fields read it,
which are folds of their own: the second inherits the slots of the first. Both are open to further
rules, so it has to be seen that the slot is bound before the first rule reads it, that no rule
takes it away, and that what a rule reads is what was bound to it last. -/

namespace Scaffold

/-- Failures other than reading a slot that nothing is bound to. -/
def Failure.OffSlots (e : Failure) : Prop :=
  ∀ slot, e ≠ .unboundSlot slot

/-! ## Bundled rules -/

namespace Storage
open Model Code Rules

section Failing
variable {α : Type}

theorem bag_offSlots (x : Except BagFault α) : FailsWithin Failure.OffSlots (x.mapError .bag) :=
  FailsWithin.mapError (E := Failure.OffSlots) fun _ _ _ => nofun

theorem key_offSlots (x : Except KeyFault α) : FailsWithin Failure.OffSlots (x.mapError .key) :=
  FailsWithin.mapError (E := Failure.OffSlots) fun _ _ _ => nofun

theorem hasOperations_offSlots (e : Entity) : FailsWithin Failure.OffSlots (hasOperations e) := by
  unfold hasOperations
  split
  · exact failsWithin_error fun _ => nofun
  · exact failsWithin_ok _
  · exact failsWithin_ok _

theorem associateMethod_offSlots (inflector : Inflector) (interfaceModule : String) (names : Names)
    (keyField : Field) (key : String) (child : Entity) :
    FailsWithin Failure.OffSlots
      (associateMethod inflector interfaceModule names keyField key child) := by
  refine (bag_offSlots _).bind fun childNames => (key_offSlots _).bind fun childKeyField => ?_
  exact (key_offSlots _).bind fun childKey => failsWithin_ok _

theorem listByMethod_offSlots (inflector : Inflector) (interfaceModule : String) (e : Entity)
    (names : Names) (keyField : Field) (listing : KeyListing Entity) :
    FailsWithin Failure.OffSlots
      (listByMethod inflector interfaceModule e names keyField listing) := by
  refine (bag_offSlots _).bind fun otherNames => (key_offSlots _).bind fun otherKeyField => ?_
  exact (key_offSlots _).bind fun key => failsWithin_ok _

end Failing

def SharesSlots (k : Part) : Prop :=
  k = .constructorBody ∨ k = .fieldValues

instance : DecidablePred SharesSlots := fun k =>
  inferInstanceAs (Decidable (k = .constructorBody ∨ k = .fieldValues))

section Bodies
variable {handle : Handler parts} {inflector : Inflector} {acc : Fragment}

theorem crudFieldBody_ensures (part : LinkedPart) :
    (crudFieldBody inflector acc part).Ensures handle Failure.OffSlots fun _ => True := by
  refine Script.ensures_lift_bind (hasOperations_offSlots _) fun filled => ?_
  split
  · refine Script.ensures_lift_bind (bag_offSlots _) fun names => ?_
    exact Script.ensures_lift_bind (key_offSlots _) fun key => Script.ensures_pure trivial
  · exact Script.ensures_pure trivial

theorem fragmentRules_ensures {k : Part} (other : ¬SharesSlots k)
    {rule : Rule parts (FragmentBody parts) k} (hr : rule ∈ fragmentRules k) (d : k.Descriptor) :
    (rule.body inflector acc d).Ensures handle Failure.OffSlots fun _ => True := by
  cases k with
  | constructorBody => exact absurd (.inl rfl) other
  | fieldValues => exact absurd (.inr rfl) other
  | leadingFields =>
    obtain rfl := List.mem_singleton.1 hr
    exact Script.ensures_pure trivial
  | parameterFields =>
    obtain rfl := List.mem_singleton.1 hr
    exact Script.ensures_pure trivial
  | implementationFields =>
    simp only [fragmentRules, List.mem_cons, List.not_mem_nil, or_false] at hr
    rcases hr with rfl | rfl | rfl | rfl
    · exact crudFieldBody_ensures d
    · exact Script.ensures_lift_bind (bag_offSlots _) fun names => Script.ensures_pure trivial
    · exact Script.ensures_pure trivial
    · refine Script.ensures_lift_bind (bag_offSlots _) fun names => ?_
      exact Script.ensures_lift_bind (key_offSlots _) fun key => Script.ensures_pure trivial
  | _ => cases hr

theorem constructorBodyBody_ensures {part : EntityPart}
    (asked : ∀ w, EndsIn Failure.OffSlots (fun _ => True)
      (handle (.buildFragment (k := Part.internalFields) .empty ⟨part.entity⟩) w).1) :
    (constructorBodyBody inflector acc part).Ensures handle Failure.OffSlots fun made =>
      made.Binds templateSlot ∧ ∃ edits, made = acc.edited edits := by
  refine Script.ensures_lift_bind (bag_offSlots _) fun names => ?_
  refine (Script.ensures_buildFragment (V := parts) asked).bind fun further _ => ?_
  refine Script.ensures_pure ⟨⟨templateSlot, ?_⟩, [.push _, .bind templateSlot templateSlot], rfl⟩
  rw [Fragment.binding_bind, if_pos rfl]

theorem reads_slot {f : String → Script parts Fragment}
    {Q : Fragment → Prop} (bound : acc.Binds templateSlot)
    (hf : ∀ template, (f template).Ensures handle Failure.OffSlots Q) :
    (monadLift (acc.binding templateSlot) >>= f : Script parts Fragment).Ensures handle
      Failure.OffSlots Q := by
  obtain ⟨template, found⟩ := bound
  rw [found]
  exact Script.ensures_lift_bind (failsWithin_ok template) hf

theorem fieldValues_onlyEdits (part : LinkedPart)
    (asked : ∀ w, EndsIn Failure.OffSlots (fun _ => True)
      (handle (.buildFragment (k := Part.crudOptions) .empty ⟨part.entity⟩) w).1)
    {rule : Rule parts (FragmentBody parts) .fieldValues} (hr : rule ∈ fragmentRules .fieldValues) :
    rule.OnlyEdits handle inflector Failure.OffSlots templateSlot part := by
  intro _ acc bound
  have pushed (item : String) : ∃ edits, acc.push item = acc.edited edits := ⟨[.push item], rfl⟩
  simp only [fragmentRules, List.mem_cons, List.not_mem_nil, or_false] at hr
  rcases hr with rfl | rfl | rfl | rfl | rfl
  · exact reads_slot bound fun template => Script.ensures_pure (pushed _)
  · refine Script.ensures_lift_bind (hasOperations_offSlots _) fun filled => ?_
    split
    · refine Script.ensures_lift_bind (bag_offSlots _) fun names => ?_
      refine reads_slot bound fun template => ?_
      refine (Script.ensures_buildFragment (V := parts) asked).bind fun further _ => ?_
      exact Script.ensures_pure (pushed _)
    · exact Script.ensures_pure ⟨[], rfl⟩
  · refine reads_slot bound fun template => ?_
    exact Script.ensures_lift_bind (bag_offSlots _) fun predicates? => Script.ensures_pure (pushed _)
  · exact Script.ensures_pure ⟨[.extend _], rfl⟩
  · refine Script.ensures_lift_bind (key_offSlots _) fun keyField => ?_
    exact reads_slot bound fun template => Script.ensures_pure (pushed _)

end Bodies

/-! ## Further rules -/

/-- Further rules that are careful with slots when they run in a registry. On the parts that share
slots they go on by edits from what they are given, if the template is bound there; on other parts
they do not fail over a slot. -/
structure Careful (r : Registry parts) (s : RuleSet parts) : Prop where
  sharing : ∀ k, SharesSlots k → ∀ rule ∈ s.tables.fragment.rulesFor k, ∀ d depth,
    rule.OnlyEdits (r.dispatch depth) r.inflector Failure.OffSlots templateSlot d
  fragment : ∀ k, ¬SharesSlots k → ∀ rule ∈ s.tables.fragment.rulesFor k, ∀ d,
    rule.applies d = true → ∀ depth acc,
      (rule.body r.inflector acc d).Ensures (r.dispatch depth) Failure.OffSlots fun _ => True
  file : ∀ k, ∀ rule ∈ s.tables.file.rulesFor k, ∀ d, rule.applies d = true → ∀ depth,
    (rule.body r.inflector d).Ensures (r.dispatch depth) Failure.OffSlots fun _ => True

/-- The rules of a registry are the bundled ones and then those of careful sets. -/
structure Extension (r : Registry parts) (further : List (RuleSet parts × Nat)) : Prop where
  file : ∀ k, r.tables.file.rulesFor k =
    fileRules k ++ further.flatMap (·.1.tables.file.rulesFor k)
  fragment : ∀ k, r.tables.fragment.rulesFor k =
    fragmentRules k ++ further.flatMap (·.1.tables.fragment.rulesFor k)
  careful : ∀ s ∈ further, Careful r s.1

theorem extension_mergeAll {base : Registry parts} (bundled : base.tables = registry.tables)
    {further : List (RuleSet parts × Nat)}
    (careful : ∀ s ∈ further, Careful (base.mergeAll further) s.1) :
    Extension (base.mergeAll further) further := by
  obtain ⟨-, file, fragment⟩ := base.mergeAll_rules further
  refine ⟨fun k => (file k).trans ?_, fun k => (fragment k).trans ?_, careful⟩
  · rw [bundled, rulesFor_file]
  · rw [bundled, rulesFor_fragment]

section Dispatch
variable {r : Registry parts} {further : List (RuleSet parts × Nat)}

theorem nesting_offSlots {α : Type} {Q : α → Prop} :
    EndsIn Failure.OffSlots Q (.error .nesting) :=
  fun _ => nofun

namespace Extension

theorem mem_fragment (extension : Extension r further) {k : Part}
    {rule : Rule parts (FragmentBody parts) k} (hr : rule ∈ r.tables.fragment.rulesFor k) :
    rule ∈ fragmentRules k ∨ ∃ s ∈ further, rule ∈ s.1.tables.fragment.rulesFor k := by
  rwa [extension.fragment, List.mem_append, List.mem_flatMap] at hr

theorem mem_file (extension : Extension r further) {k : Part}
    {rule : Rule parts (FileBody parts) k} (hr : rule ∈ r.tables.file.rulesFor k) :
    rule ∈ fileRules k ∨ ∃ s ∈ further, rule ∈ s.1.tables.file.rulesFor k := by
  rwa [extension.file, List.mem_append, List.mem_flatMap] at hr

theorem buildFragment_endsIn (extension : Extension r further) {k : Part} (other : ¬SharesSlots k)
    (depth : Nat) (acc : Fragment) (d : k.Descriptor) (w : World) :
    EndsIn Failure.OffSlots (fun _ => True)
      (r.dispatch depth (.buildFragment (k := k) acc d) w).1 := by
  cases depth with
  | zero => exact nesting_offSlots
  | succ depth =>
    refine foldFragment_endsIn (fun rule hr applies acc _ => ?_) trivial w
    rcases extension.mem_fragment hr with bundled | ⟨s, hs, hr⟩
    · exact fragmentRules_ensures other bundled d
    · exact (extension.careful s hs).fragment k other rule hr d applies depth acc

theorem emitFunctions_failsWithin (extension : Extension r further) (depth : Nat)
    (source : SourceFile) (part : EntityPart) (w : World) :
    FailsWithin Failure.OffSlots
      (r.dispatch depth (.emitFile (k := Part.internalFunctions) source part) w).1.1 := by
  cases depth with
  | zero => exact failsWithin_error fun _ => nofun
  | succ depth =>
    refine fillFile_failsWithin (fun rule hr applies => ?_) source w
    rcases extension.mem_file hr with bundled | ⟨s, hs, hr⟩
    · cases bundled
    · exact (extension.careful s hs).file _ rule hr part applies depth

theorem fieldValues_onlyEdits (extension : Extension r further) (depth : Nat) (part : LinkedPart) :
    ∀ rule ∈ r.tables.fragment.rulesFor Part.fieldValues,
      rule.OnlyEdits (r.dispatch depth) r.inflector Failure.OffSlots templateSlot part := by
  intro rule hr
  rcases extension.mem_fragment hr with bundled | ⟨s, hs, hr⟩
  · refine Storage.fieldValues_onlyEdits part (fun w => ?_) bundled
    exact extension.buildFragment_endsIn (by decide) depth .empty _ w
  · exact (extension.careful s hs).sharing _ (.inr rfl) rule hr part depth

theorem exists_constructorBody (extension : Extension r further) :
    ∃ later, r.tables.fragment.rulesFor Part.constructorBody =
        ⟨Part.constructorBody.always, constructorBodyBody⟩ :: later ∧
      ∀ rule ∈ later, ∀ part depth,
        rule.OnlyEdits (r.dispatch depth) r.inflector Failure.OffSlots templateSlot part := by
  refine ⟨_, extension.fragment _, fun rule added part depth => ?_⟩
  obtain ⟨s, hs, hr⟩ := List.mem_flatMap.1 added
  exact (extension.careful s hs).sharing _ (.inl rfl) rule hr part depth

theorem constructorBodyBody_ensures (extension : Extension r further) (depth : Nat)
    (part : EntityPart) :
    (constructorBodyBody r.inflector .empty part).Ensures (r.dispatch depth) Failure.OffSlots
      fun made => made.Binds templateSlot ∧ ∃ edits, made = Fragment.empty.edited edits :=
  Storage.constructorBodyBody_ensures fun w =>
    extension.buildFragment_endsIn (by decide) depth .empty _ w

theorem constructor_binds (extension : Extension r further) (depth : Nat) (part : EntityPart)
    (w : World) :
    EndsIn Failure.OffSlots (·.Binds templateSlot)
      (r.dispatch depth (.buildFragment (k := Part.constructorBody) .empty part) w).1 := by
  cases depth with
  | zero => exact nesting_offSlots
  | succ depth =>
    obtain ⟨later, rules, edits⟩ := extension.exists_constructorBody
    change EndsIn _ _ (foldFragment (r.dispatch depth) r.inflector part
      (r.tables.fragment.rulesFor Part.constructorBody) .empty w).1
    rw [rules]
    have first := (extension.constructorBodyBody_ensures depth part).mono fun _ => And.left
    exact foldFragment_cons_endsIn first (fun rule hr => (edits rule hr part depth).binds) w

theorem constructor_account (extension : Extension r further) {depth : Nat} {part : EntityPart}
    {statements : Fragment} {w v : World}
    (h : r.dispatch (depth + 1) (.buildFragment (k := Part.constructorBody) .empty part) w =
      (.ok statements, v)) :
    ∃ edits, Account (r.dispatch depth) r.inflector part
      (r.tables.fragment.rulesFor Part.constructorBody) .empty w edits statements v := by
  obtain ⟨later, rules, edits⟩ := extension.exists_constructorBody
  change foldFragment (r.dispatch depth) r.inflector part
    (r.tables.fragment.rulesFor Part.constructorBody) .empty w = _ at h
  rw [rules] at h ⊢
  exact exists_account_cons (extension.constructorBodyBody_ensures depth part)
    (fun rule hr => edits rule hr part depth) h

theorem fieldValues_endsIn (extension : Extension r further) (depth : Nat) {acc : Fragment}
    (bound : acc.Binds templateSlot) (part : LinkedPart) (w : World) :
    EndsIn Failure.OffSlots (fun _ => True)
      (r.dispatch depth (.buildFragment (k := Part.fieldValues) acc part) w).1 := by
  cases depth with
  | zero => exact nesting_offSlots
  | succ depth =>
    have each := extension.fieldValues_onlyEdits depth part
    have folded := foldFragment_endsIn (fun rule hr => (each rule hr).binds) bound w
    exact folded.mono fun _ _ => trivial

end Extension

/-! ## Files of entities -/

theorem setHeader?_ensures {handle : Handler parts} {E : Failure → Prop} (header? : Option String) :
    (setHeader? header?).Ensures handle E fun _ => True := by
  cases header? with
  | none => exact fun _ _ => trivial
  | some header => exact FileScript.ensures_change _

section Blocks
variable {handle : Handler parts} {inflector : Inflector} (file : StorageFile)

theorem associateFileBody_ensures :
    (associateFileBody inflector file).Ensures handle Failure.OffSlots fun _ => True := by
  refine FileScript.ensures_lift_bind (bag_offSlots _) fun names => ?_
  refine FileScript.ensures_lift_bind (key_offSlots _) fun keyField => ?_
  refine FileScript.ensures_lift_bind (key_offSlots _) fun key => ?_
  refine FileScript.ensures_forM fun child _ => ?_
  exact FileScript.ensures_lift_bind (associateMethod_offSlots _ _ _ _ _ _) fun _ =>
    FileScript.ensures_change _

theorem listByAssociatedKeyFileBody_ensures :
    (listByAssociatedKeyFileBody inflector file).Ensures handle Failure.OffSlots
      fun _ => True := by
  refine FileScript.ensures_lift_bind (bag_offSlots _) fun names => ?_
  refine FileScript.ensures_lift_bind (key_offSlots _) fun keyField => ?_
  refine FileScript.ensures_forM fun listing _ => ?_
  exact FileScript.ensures_lift_bind (listByMethod_offSlots _ _ _ _ _ _) fun _ =>
    FileScript.ensures_change _

end Blocks

namespace Extension

theorem build_ensures (extension : Extension r further) {k : Part} (other : ¬SharesSlots k)
    (depth : Nat) (acc : Fragment) (d : k.Descriptor) :
    (build acc d).Ensures (r.dispatch depth) Failure.OffSlots fun _ => True :=
  FileScript.ensures_buildFragment (V := parts) (extension.buildFragment_endsIn other depth acc d)

theorem fileBody_ensures (extension : Extension r further) (depth : Nat) (file : StorageFile) :
    (fileBody r.inflector file).Ensures (r.dispatch depth) Failure.OffSlots fun _ => True := by
  have part {k : Part} (other : ¬SharesSlots k) := extension.build_ensures other depth
  refine FileScript.ensures_lift_bind (bag_offSlots _) fun names => ?_
  refine (setHeader?_ensures _).bind fun _ _ => (FileScript.ensures_change _).bind fun _ _ => ?_
  refine (part (by decide) _ _).bind fun leading _ => ?_
  refine (part (by decide) _ _).bind fun further _ => ?_
  refine (FileScript.ensures_change _).bind fun _ _ => ?_
  refine (FileScript.ensures_emitFile (V := parts) fun source w =>
    extension.emitFunctions_failsWithin depth source _ w).bind fun _ _ => ?_
  refine (part (by decide) _ _).bind fun fields _ => ?_
  refine (FileScript.ensures_change _).bind fun _ _ => ?_
  refine (part (by decide) _ _).bind fun parameters _ => ?_
  refine (FileScript.ensures_change _).bind fun _ _ => ?_
  refine (FileScript.ensures_buildFragment (V := parts)
    (extension.constructor_binds depth _)).bind fun statements bound => ?_
  have inherited : (Fragment.inheriting statements).Binds templateSlot := bound
  refine (FileScript.ensures_buildFragment (V := parts)
    (extension.fieldValues_endsIn depth inherited _)).bind fun values _ => ?_
  exact FileScript.ensures_change _

theorem exists_fileBody (extension : Extension r further) :
    ∃ later, r.tables.file.rulesFor Part.storageFile =
      ⟨Part.storageFile.always, fileBody⟩ :: later :=
  ⟨_, extension.file _⟩

theorem fillFile_failsWithin (extension : Extension r further) (depth : Nat) (file : StorageFile)
    (source : SourceFile) (w : World) :
    FailsWithin Failure.OffSlots (fillFile (V := parts) (k := Part.storageFile) (r.dispatch depth)
      r.inflector file (r.tables.file.rulesFor Part.storageFile) source w).1.1 := by
  refine Rules.fillFile_failsWithin (fun rule hr applies => ?_) source w
  rcases extension.mem_file hr with bundled | ⟨s, hs, hr⟩
  · simp only [fileRules, List.mem_cons, List.not_mem_nil, or_false] at bundled
    rcases bundled with rfl | rfl | rfl
    · exact extension.fileBody_ensures depth file
    · exact associateFileBody_ensures file
    · exact listByAssociatedKeyFileBody_ensures file
  · exact (extension.careful s hs).file _ rule hr file applies depth

theorem emitFile_failsWithin (extension : Extension r further) (depth : Nat) (source : SourceFile)
    (file : StorageFile) (w : World) :
    FailsWithin Failure.OffSlots
      (r.dispatch depth (.emitFile (k := Part.storageFile) source file) w).1.1 := by
  cases depth with
  | zero => exact failsWithin_error fun _ => nofun
  | succ depth => exact extension.fillFile_failsWithin depth file source w

theorem emitFileAt_failsWithin (extension : Extension r further) (depth : Nat) (path : Path)
    (file : StorageFile) (w : World) :
    FailsWithin Failure.OffSlots
      (r.dispatch depth (.emitFileAt (k := Part.storageFile) path file) w).1 := by
  cases depth with
  | zero => exact failsWithin_error fun _ => nofun
  | succ depth =>
    have own (e : Failure) (h : e.OfDispatch) : e.OffSlots := by
      rintro slot rfl
      exact h
    exact Registry.failsWithin_writeFileOf (V := parts) own
      (extension.fillFile_failsWithin depth file) path w

end Extension

def Inherits (handle : Handler parts) (file : StorageFile) (acc : Fragment) (part : LinkedPart) :
    Prop :=
  part = ⟨file.entity, file.interfaceModule⟩ ∧ ∃ statements w v,
    handle (.buildFragment (k := Part.constructorBody) .empty ⟨file.entity⟩) w =
      (.ok statements, v) ∧ acc = .inheriting statements

theorem calls_fileBody (handle : Handler parts) (inflector : Inflector) (file : StorageFile) :
    (fileBody inflector file).Calls handle fun c => ∀ acc part,
      c = .buildFragment (k := Part.fieldValues) acc part → Inherits handle file acc part := by
  have other {k : Part} (hk : k ≠ .fieldValues) (acc : Fragment) (d : k.Descriptor) :
      (build acc d).Calls handle fun c => ∀ acc part,
        c = .buildFragment (k := Part.fieldValues) acc part → Inherits handle file acc part := by
    refine (asks_build acc d ?_).calls
    intro acc' part same
    cases same
    exact absurd rfl hk
  refine (FileScript.asks_lift _).calls.bind fun names => ?_
  refine (asks_setHeader? _).calls.bind fun _ => (FileScript.asks_use _).calls.bind fun _ => ?_
  refine (other (by decide) _ _).bind fun leading => (other (by decide) _ _).bind fun further => ?_
  refine (FileScript.asks_add _).calls.bind fun _ => ?_
  refine (FileScript.asks_emitFile (V := parts) _ fun _ _ _ => nofun).calls.bind fun _ => ?_
  refine (other (by decide) _ _).bind fun fields => (FileScript.asks_add _).calls.bind fun _ => ?_
  refine (other (by decide) _ _).bind fun parameters => ?_
  refine (FileScript.asks_add _).calls.bind fun _ => ?_
  refine FileScript.calls_buildFragment_bind (V := parts) (fun _ _ => nofun) ?_
  intro statements w v answered
  refine (asks_build _ _ ?_).calls.bind fun values => (FileScript.asks_add _).calls
  rintro acc part ⟨⟩
  exact ⟨rfl, statements, w, v, answered, rfl⟩

end Dispatch

/-! ## What is read -/

section Reading
variable (r : Registry parts) (depth : Nat)

def ConstructorAccount (e : Entity) (w : World) (edits : List Edit) (statements : Fragment)
    (v : World) : Prop :=
  Account (V := parts) (k := Part.constructorBody) (r.dispatch depth) r.inflector ⟨e⟩
    (r.tables.fragment.rulesFor Part.constructorBody) .empty w edits statements v

def ValuesAccount (file : StorageFile) (before : List (Rule parts (FragmentBody parts) .fieldValues))
    (statements : Fragment) (w : World) (edits : List Edit) (given : Fragment) (v : World) : Prop :=
  Account (V := parts) (k := Part.fieldValues) (r.dispatch depth) r.inflector
    ⟨file.entity, file.interfaceModule⟩ before (.inheriting statements) w edits given v

/-- What the rules for the field values find in the template slot when they go on from the
statements of the constructor. The statements have an account. So has the fragment that a rule is
given after those before it, and it binds the template to what the edits of both accounts have bound
last. -/
structure ReadsLast (file : StorageFile) (statements : Fragment) (u v : World) : Prop where
  accounted : ∃ edits, ConstructorAccount r depth file.entity u edits statements v
  values : ∀ before rule after,
    r.tables.fragment.rulesFor Part.fieldValues = before ++ rule :: after → ∀ w given w',
      foldFragment (V := parts) (k := Part.fieldValues) (r.dispatch depth) r.inflector
          ⟨file.entity, file.interfaceModule⟩ before (.inheriting statements) w = (.ok given, w') →
        ∃ edits, ValuesAccount r depth file before statements w edits given w'
  last : ∀ before rule after,
    r.tables.fragment.rulesFor Part.fieldValues = before ++ rule :: after →
      ∀ edits later w given w', ConstructorAccount r depth file.entity u edits statements v →
        ValuesAccount r depth file before statements w later given w' →
          ∃ value, lastBound templateSlot (edits ++ later) = some value ∧
            given.binding templateSlot = .ok value

end Reading

theorem Extension.readsLast {r : Registry parts} {further : List (RuleSet parts × Nat)}
    (extension : Extension r further) {depth : Nat} {file : StorageFile} {statements : Fragment}
    {u v : World}
    (answered : r.dispatch (depth + 1)
      (.buildFragment (k := Part.constructorBody) .empty ⟨file.entity⟩) u = (.ok statements, v)) :
    ReadsLast r depth file statements u v := by
  have bound := extension.constructor_binds (depth + 1) ⟨file.entity⟩ u
  rw [answered] at bound
  have inherited : (Fragment.inheriting statements).Binds templateSlot := bound
  refine ⟨extension.constructor_account answered, ?_, ?_⟩
  · intro before rule after split w given w' ran
    have all := extension.fieldValues_onlyEdits depth ⟨file.entity, file.interfaceModule⟩
    rw [split] at all
    exact exists_account (fun rule hr => all rule (List.mem_append_left _ hr)) inherited ran
  · intro before rule after _ edits later w given w' constructed valued
    obtain rfl := constructed.made_eq
    obtain rfl := valued.made_eq
    exact Fragment.binding_inherited bound later

/-- The template slot is bound wherever it is read, in the bundled registry with any further sets
that are careful with slots merged into it. No file of an entity fails over an unbound slot. Its main
rule, which runs first, has the field values go on from the statements of the constructor, and every
rule for the field values is given a fragment in which the template is what the two folds, told as
edits, have bound last. -/
theorem template_slot_bound {base : Registry parts} (bundled : base.tables = registry.tables)
    {further : List (RuleSet parts × Nat)}
    (careful : ∀ s ∈ further, Careful (base.mergeAll further) s.1) :
    let r := base.mergeAll further
    (∀ depth source (file : StorageFile) w slot,
      (r.dispatch depth (.emitFile (k := Part.storageFile) source file) w).1.1 ≠
        .error (.unboundSlot slot)) ∧
    (∀ depth path (file : StorageFile) w slot,
      (r.dispatch depth (.emitFileAt (k := Part.storageFile) path file) w).1 ≠
        .error (.unboundSlot slot)) ∧
    (∃ later, r.tables.file.rulesFor Part.storageFile =
      ⟨Part.storageFile.always, fileBody⟩ :: later) ∧
    ∀ depth source (file : StorageFile) w acc part,
      .buildFragment (k := Part.fieldValues) acc part ∈
        ((fileBody r.inflector file).run.run source).calls (r.dispatch (depth + 1)) w →
      part = ⟨file.entity, file.interfaceModule⟩ ∧ ∃ statements u v,
        r.dispatch (depth + 1) (.buildFragment (k := Part.constructorBody) .empty ⟨file.entity⟩) u =
          (.ok statements, v) ∧
        acc = .inheriting statements ∧ ReadsLast r depth file statements u v := by
  intro r
  have extension : Extension r further := extension_mergeAll bundled careful
  refine ⟨fun depth source file w slot unbound => ?_, fun depth path file w slot unbound => ?_,
    extension.exists_fileBody, fun depth source file w acc part asked => ?_⟩
  · exact extension.emitFile_failsWithin depth source file w _ unbound slot rfl
  · exact extension.emitFileAt_failsWithin depth path file w _ unbound slot rfl
  · obtain ⟨same, statements, u, v, answered, inherits⟩ :=
      calls_fileBody (r.dispatch (depth + 1)) r.inflector file source w _ asked acc part rfl
    exact ⟨same, statements, u, v, answered, inherits, extension.readsLast answered⟩

def auditStatementBody : FragmentBody parts .constructorBody := fun _ acc _ =>
  return (acc.push "let audited = data::audit(template);").bind templateSlot "audited"

def auditValueBody : FragmentBody parts .fieldValues := fun _ acc _ => do
  let template ← acc.binding templateSlot
  return acc.push ("log: " ++ template ++ ".log()")

/-- Further rules that bind the template anew and read it. -/
def auditRules : RuleSet parts :=
  (RuleSet.empty.addFragmentRule Part.constructorBody.always auditStatementBody).addFragmentRule
    Part.fieldValues.always auditValueBody

theorem careful_auditRules (r : Registry parts) : Careful r auditRules where
  sharing := by
    rintro k (rfl | rfl) rule hr d depth _ acc bound
    · obtain rfl := List.mem_singleton.1 hr
      exact Script.ensures_pure ⟨[.push _, .bind _ _], rfl⟩
    · obtain rfl := List.mem_singleton.1 hr
      exact reads_slot bound fun template => Script.ensures_pure ⟨[.push _], rfl⟩
  fragment k other rule hr := by
    cases k with
    | constructorBody => exact absurd (.inl rfl) other
    | fieldValues => exact absurd (.inr rfl) other
    | _ => cases hr
  file k rule hr := by
    cases k <;> cases hr

def auditedFile : StorageFile where
  package := "store"
  interfaceModule := "crate::model"
  entity := ⟨"Owner", "model::Owner", [⟨"email", "String", ⟨true⟩⟩], ⟨[.search]⟩⟩

def auditedCalls : List (Call parts) :=
  ((fileBody (registry.mergeAll [(auditRules, 6)]).inflector auditedFile).run.run
    { module := "store" }).calls ((registry.mergeAll [(auditRules, 6)]).dispatch 3) {}

def givesValues (template : String) : Call parts → Bool
  | @Call.buildFragment _ Part.fieldValues acc _ => acc.bindings.get? templateSlot == some template
  | _ => false

theorem template_slot_bound_audited :
    (((registry.mergeAll [(auditRules, 6)]).emitFile (k := Part.storageFile) { module := "store" }
      auditedFile {}).1.1 ≠ .error (.unboundSlot templateSlot)) ∧
    ∃ statements u v, ReadsLast (registry.mergeAll [(auditRules, 6)]) 2 auditedFile statements u v ∧
      statements.binding templateSlot = .ok "audited" := by
  have careful : ∀ s ∈ [(auditRules, 6)], Careful (registry.mergeAll [(auditRules, 6)]) s.1 := by
    intro s hs
    obtain rfl := List.mem_singleton.1 hs
    exact careful_auditRules _
  obtain ⟨never, -, -, reads⟩ := template_slot_bound rfl careful
  refine ⟨never _ _ auditedFile {} templateSlot, ?_⟩
  have asked : auditedCalls.any (givesValues "audited") = true := by decide +kernel
  obtain ⟨c, made, gives⟩ := List.any_eq_true.1 asked
  unfold givesValues at gives
  split at gives
  next acc part =>
    obtain ⟨-, statements, u, v, -, rfl, last⟩ := reads 2 _ auditedFile {} acc part made
    refine ⟨statements, u, v, last, ?_⟩
    have held : statements.bindings.get? templateSlot = some "audited" := eq_of_beq gives
    rw [Fragment.binding, held]
  · cases gives

end Storage
end Scaffold
