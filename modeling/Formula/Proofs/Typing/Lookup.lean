import Formula.Proofs.Overload.Selection
import Formula.Proofs.Typing.WellFormed
import Formula.Scope

/-!
What lookups find is declared where they look, and it is static where they ask for that.
-/

namespace Formula

namespace Catalog

variable {catalog : Catalog}

theorem find?_id {id : TypeId} {entry : TypeEntry} (found : catalog.find? id = some entry) :
    catalog.find? entry.id = some entry := by
  rw [(find?_mem found).2]
  exact found

theorem entryFor?_find? {type : DataType} {entry : TypeEntry}
    (found : catalog.entryFor? type = some entry) : catalog.find? entry.id = some entry := by
  unfold entryFor? at found
  split at found
  · exact find?_id found
  · split at found
    · exact find?_id found
    · exact find?_id found

theorem entryBases_find? {limit : Nat} {seen : List TypeId} {entry base : TypeEntry}
    (found : catalog.find? entry.id = some entry)
    (member : base ∈ catalog.entryBases limit seen entry) :
    catalog.find? base.id = some base := by
  induction limit generalizing seen entry with
  | zero =>
      unfold entryBases at member
      rw [List.mem_singleton.mp member]
      exact found
  | succ limit ih =>
      unfold entryBases at member
      cases parent : entry.base.bind catalog.find? with
      | none =>
          simp only [parent, List.mem_singleton] at member
          rw [member]
          exact found
      | some next =>
          simp only [parent] at member
          split at member
          · rw [List.mem_singleton.mp member]
            exact found
          · rw [List.mem_cons] at member
            rcases member with rfl | further
            · exact found
            · obtain ⟨id, _, isNext⟩ := Option.bind_eq_some_iff.mp parent
              exact ih (find?_id isNext) further

theorem declaringEntries_find? {type : DataType} {isStatic : Bool} {entry : TypeEntry}
    (member : entry ∈ catalog.declaringEntries type isStatic) :
    catalog.find? entry.id = some entry := by
  unfold declaringEntries at member
  cases found : catalog.entryFor? type with
  | none =>
      rw [found] at member
      cases member
  | some first =>
      simp only [found] at member
      have known := entryFor?_find? found
      split at member
      · rw [List.mem_singleton.mp member]
        exact known
      · exact entryBases_find? known member

theorem addUnlessHidden_cases (found : List Member) (member : Member) :
    addUnlessHidden found member = found ∨ addUnlessHidden found member = found ++ [member] := by
  unfold addUnlessHidden
  split
  · exact .inl rfl
  · exact .inr rfl

theorem addUnlessOverridden_cases (found : List Method) (method : Method) :
    addUnlessOverridden found method = found ∨
      addUnlessOverridden found method = found ++ [method] := by
  unfold addUnlessOverridden
  split
  · exact .inl rfl
  · exact .inr rfl

theorem declaresMember_of_members {type : DataType} {name : String} {isStatic : Bool}
    {member : Member} (found : member ∈ catalog.members type name isStatic) :
    catalog.DeclaresMember type isStatic member ∧ member.parameters = [] := by
  unfold members at found
  rcases mem_of_foldl addUnlessHidden_cases found with impossible | reached
  · cases impossible
  · rw [List.mem_filter, List.mem_flatMap] at reached
    obtain ⟨⟨entry, declaring, declared⟩, kept⟩ := reached
    simp only [Bool.and_eq_true, beq_iff_eq] at kept
    obtain ⟨⟨static, notIndexer⟩, _⟩ := kept
    refine ⟨⟨static, entry, declaring, declared⟩, ?_⟩
    unfold Member.isIndexer at notIndexer
    rw [Bool.not_not, List.isEmpty_iff] at notIndexer
    exact notIndexer

theorem declaresMethod_of_methods {type : DataType} {name : String} {isStatic : Bool}
    {method : Method} (found : method ∈ catalog.methods type name isStatic) :
    catalog.DeclaresMethod type isStatic method := by
  unfold methods at found
  rcases mem_of_foldl addUnlessOverridden_cases found with impossible | reached
  · cases impossible
  · rw [List.mem_filter, List.mem_flatMap] at reached
    obtain ⟨⟨entry, declaring, declared⟩, kept⟩ := reached
    rw [Bool.and_eq_true, beq_iff_eq] at kept
    exact ⟨kept.1, entry, declaring, declared⟩

theorem declaresMember_of_indexers {type : DataType} {indexer : Member}
    (found : indexer ∈ catalog.indexers type) : catalog.DeclaresMember type false indexer := by
  unfold indexers at found
  rw [List.mem_filter, List.mem_flatMap] at found
  obtain ⟨⟨entry, declaring, declared⟩, kept⟩ := found
  rw [Bool.and_eq_true, Bool.not_eq_true'] at kept
  exact ⟨kept.1, entry, declaring, declared⟩

theorem mem_of_selectMethod {methods : List Method} {arguments : List DataType}
    {method : Method} (selected : catalog.selectMethod methods arguments = .ok (some method)) :
    method ∈ methods := by
  unfold selectMethod at selected
  split at selected
  · injection selected with found
    exact List.mem_of_getElem? found
  · cases selected
  · cases selected

theorem declaresMethod_of_conversionOn? {owner source target : DataType} {name : String}
    {method : Method}
    (found : catalog.conversionOn? owner name source target = some method) :
    catalog.DeclaresMethod owner true method ∧ method.types = [source] ∧
      method.result = target := by
  unfold conversionOn? at found
  split at found
  · cases found
  · rename_i plain
    rw [Bool.not_eq_true, Bool.or_eq_false_iff] at plain
    obtain ⟨entry, known, declared⟩ := Option.bind_eq_some_iff.mp found
    have kept := List.find?_some declared
    simp only [Bool.and_eq_true, beq_iff_eq] at kept
    obtain ⟨⟨⟨static, _⟩, result⟩, types⟩ := kept
    refine ⟨⟨static, entry, ?_, List.mem_of_find?_eq_some declared⟩, types, result⟩
    unfold declaringEntries entryFor?
    rw [plain.1, plain.2]
    simp only [Bool.false_eq_true, if_false, known, if_true]
    exact List.mem_singleton_self entry

theorem declaresMethod_of_castOperator? {source target : DataType} {method : Method}
    (found : catalog.castOperator? source target = some method) :
    (∃ owner, catalog.DeclaresMethod owner true method) ∧ method.types = [source] ∧
      method.result = target := by
  unfold castOperator? at found
  obtain ⟨⟨name, owner⟩, _, declared⟩ := List.exists_of_findSome?_eq_some found
  obtain ⟨declares, types, result⟩ := declaresMethod_of_conversionOn? declared
  exact ⟨⟨owner, declares⟩, types, result⟩

theorem declaresMethod_of_declaredOperator {name : String} {operands : List DataType}
    {method : Method}
    (found : catalog.declaredOperator name operands = .ok (some method)) :
    (∃ owner, catalog.DeclaresMethod owner true method) ∧
      method.parameters.length = operands.length := by
  unfold declaredOperator at found
  have member := mem_of_selectMethod found
  rw [List.mem_flatMap] at member
  obtain ⟨owner, _, declared⟩ := member
  rw [List.mem_filter, beq_iff_eq] at declared
  exact ⟨⟨owner, declaresMethod_of_methods declared.1⟩, declared.2⟩

end Catalog

namespace Scope

variable {scope : Scope}

theorem declares_of_memberOf {owner : Option DataType} {name : String} {isStatic : Bool}
    {member : Member} (found : scope.memberOf owner name isStatic = .ok (some member)) :
    ∃ type ∈ scope.owners owner,
      scope.catalog.DeclaresMember type isStatic member ∧ member.parameters = [] := by
  unfold memberOf at found
  split at found
  · cases found
  · rename_i only members
    cases found
    have reached : member ∈ (scope.owners owner).flatMap fun type =>
        scope.catalog.members type name isStatic := by
      rw [members]
      exact List.mem_singleton_self member
    rw [List.mem_flatMap] at reached
    obtain ⟨type, asked, declared⟩ := reached
    exact ⟨type, asked, Catalog.declaresMember_of_members declared⟩
  · cases found

theorem declares_of_methodOf {owner : Option DataType} {name : String}
    {arguments : List DataType} {isStatic : Bool} {method : Method}
    (found : scope.methodOf owner name arguments isStatic = .ok (some method)) :
    ∃ type ∈ scope.owners owner, scope.catalog.DeclaresMethod type isStatic method := by
  unfold methodOf at found
  have reached := Catalog.mem_of_selectMethod found
  rw [List.mem_flatMap] at reached
  obtain ⟨type, asked, declared⟩ := reached
  exact ⟨type, asked, Catalog.declaresMethod_of_methods declared⟩

theorem declares_of_bindMember_some {owner : DataType} {name : String} {isStatic : Bool}
    {member : Member} (found : scope.bindMember (some owner) name isStatic = .ok (some member)) :
    scope.catalog.DeclaresMember owner isStatic member ∧ member.parameters = [] := by
  unfold bindMember receiverType? at found
  simp only [Option.isNone_some, Bool.false_and, Bool.false_eq_true, if_false] at found
  obtain ⟨type, asked, declares⟩ := declares_of_memberOf found
  unfold owners at asked
  rw [List.mem_singleton.mp asked] at declares
  exact declares

theorem bindMethod_some (owner : DataType) (name : String) (arguments : List DataType)
    (isStatic : Bool) :
    scope.bindMethod (some owner) name arguments isStatic =
      scope.methodOf (some owner) name arguments isStatic := by
  unfold bindMethod receiverType?
  rfl

/-- A call without a target finds a method of the receiver, or else one of an open type. -/
theorem bindMethod_none {name : String} {arguments : List DataType} {method : Method}
    (found : scope.bindMethod none name arguments true = .ok (some method)) :
    (∃ target, scope.receiver = some target ∧
        scope.methodOf (some target.type) name arguments false = .ok (some method)) ∨
      scope.methodOf none name arguments true = .ok (some method) := by
  unfold bindMethod receiverType? at found
  simp only [Option.isNone_none, Bool.and_self, if_true] at found
  cases isReceiver : scope.receiver with
  | none =>
      simp only [isReceiver, Option.map_none, pure_bind] at found
      exact .inr found
  | some target =>
      simp only [isReceiver, Option.map_some, bind_eq_ok] at found
      obtain ⟨own, isOwn, found⟩ := found
      cases own with
      | none => exact .inr found
      | some other =>
          rw [pure_eq_ok] at found
          cases found
          exact .inl ⟨target, rfl, isOwn⟩

theorem declares_of_bindMethod_some {owner : DataType} {name : String}
    {arguments : List DataType} {isStatic : Bool} {method : Method}
    (found : scope.bindMethod (some owner) name arguments isStatic = .ok (some method)) :
    scope.catalog.DeclaresMethod owner isStatic method := by
  rw [bindMethod_some] at found
  obtain ⟨type, asked, declares⟩ := declares_of_methodOf found
  unfold owners at asked
  rw [List.mem_singleton.mp asked] at declares
  exact declares

end Scope

end Formula
