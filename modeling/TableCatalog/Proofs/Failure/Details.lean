import TableCatalog.CatalogError

/-!
# Details around the conversion of an error

Details are added to an error before it becomes the failure of an operation, and to this failure
afterwards. All of them are kept in the order in which they were given, with one detail between them
that the conversion adds, unless the failure is one that the metadata service reported. Nothing else
that the failure says depends on any detail.
-/

namespace TableCatalog

/-- A call that adds details. Whether the error is handed over or changed in place makes no
difference to what it says afterwards. -/
inductive Addition where
  | one (detail : String)
  | several (details : List String)
  deriving DecidableEq, Repr

namespace Addition

/-- The details that are added. -/
def details : Addition → List String
  | .one detail => [detail]
  | .several details => details

variable {ε : Type}

/-- An error after several calls that add details to it, where `withDetails` adds details behind
those that are there. -/
def addAll (withDetails : ε → List String → ε) (e : ε) (additions : List Addition) : ε :=
  additions.foldl (fun e addition => withDetails e addition.details) e

/-- Details are added behind those that are there, one after the other. -/
structure Collects (withDetails : ε → List String → ε) : Prop where
  nil : ∀ e, withDetails e [] = e
  append : ∀ e front back, withDetails (withDetails e front) back = withDetails e (front ++ back)

/-- **Calls that add details add all of them in order.** -/
theorem Collects.addAll_eq {withDetails : ε → List String → ε} (collects : Collects withDetails)
    (e : ε) (additions : List Addition) :
    addAll withDetails e additions = withDetails e (additions.flatMap details) := by
  induction additions generalizing e with
  | nil => exact (collects.nil e).symm
  | cons addition additions ih =>
    have first : addAll withDetails e (addition :: additions) =
        addAll withDetails (withDetails e addition.details) additions := rfl
    rw [first, ih, collects.append, List.flatMap_cons]

end Addition

open Addition (Collects addAll)

/-! ## Errors that collect details -/

theorem Fault.collects : Collects Fault.withDetails where
  nil f := by
    cases f
    simp [withDetails]
  append f front back := by simp [withDetails]

theorem Failure.collects : Collects Failure.withDetails where
  nil f := by
    cases f
    simp [withDetails]
  append f front back := by simp [withDetails]

theorem CatalogError.collects : Collects CatalogError.withDetails where
  nil e := by
    cases e with
    | own fault => rw [withDetails, Fault.collects.nil]
    | remote failure => rw [withDetails, Failure.collects.nil]
  append e front back := by
    cases e with
    | own fault => simp only [withDetails, Fault.collects.append]
    | remote failure => simp only [withDetails, Failure.collects.append]

/-! ## Around the conversion -/

/-- A fault to which details are added before and after it becomes the failure of an operation. -/
def Fault.told (f : Fault) (before after : List Addition) : CatalogError :=
  addAll CatalogError.withDetails (.ofFault (addAll Fault.withDetails f before)) after

/-- A reported failure to which details are added before and after it becomes the failure of an
operation. -/
def Failure.told (f : Failure) (before after : List Addition) : CatalogError :=
  addAll CatalogError.withDetails (.remote (addAll Failure.withDetails f before)) after

theorem Fault.told_eq (f : Fault) (before after : List Addition) :
    f.told before after = .own (f.withDetails (before.flatMap Addition.details ++
      [CatalogError.operationDetail] ++ after.flatMap Addition.details)) := by
  rw [told, CatalogError.collects.addAll_eq, Fault.collects.addAll_eq, CatalogError.ofFault,
    CatalogError.withDetails, Fault.collects.append, Fault.collects.append, List.append_assoc]

theorem Failure.told_eq (f : Failure) (before after : List Addition) :
    f.told before after = .remote (f.withDetails (before.flatMap Addition.details ++
      after.flatMap Addition.details)) := by
  rw [told, CatalogError.collects.addAll_eq, Failure.collects.addAll_eq, CatalogError.withDetails,
    Failure.collects.append]

/-- **The conversion keeps all details in order.** A fault is told with the details given before,
the detail of the operation and the details given after, and all else follows from its cause; its
text is the message it is told with. A reported failure is told as it is, with the details given
before and after. The failure for which no data token could be had is told as the origin. -/
theorem conversion_keeps_details (cause : Cause) (reported : Failure) (details : List String)
    (before after : List Addition) :
    (Fault.told ⟨cause, details⟩ before after).toFailure =
      { message := cause.message, kind := cause.kind, code := cause.code, origin := cause.origin,
        details := details ++ before.flatMap Addition.details ++
          [CatalogError.operationDetail] ++ after.flatMap Addition.details } ∧
    (Fault.told ⟨cause, details⟩ before after).message =
      (Fault.told ⟨cause, details⟩ before after).toFailure.message ∧
    (reported.told before after).toFailure =
      { reported with details := reported.details ++ before.flatMap Addition.details ++
          after.flatMap Addition.details } ∧
    ∀ identifier source,
      (Fault.told ⟨.credential identifier source, details⟩ before after).toFailure.origin =
        .report source.toReport source.origin := by
  simp only [Fault.told_eq, Failure.told_eq]
  refine ⟨?_, rfl, ?_, fun identifier source => rfl⟩
  · simp [CatalogError.toFailure, Fault.toFailure, Fault.withDetails]
  · simp [CatalogError.toFailure, Failure.withDetails]

end TableCatalog
