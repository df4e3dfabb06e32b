import WireTree.Compilation.Decode

/-!
# Outcomes without their logs

What comes of a computation that leaves a log can be told without the log.
Main statements: the outcome of a sequence is that of the outcomes (`result_bind`, `result_mapM`),
so that compilations decode as if nothing was logged (`decodeWith_eq`).
-/

namespace WireTree

namespace Traced

variable {ω ε α β : Type}

theorem result_bind (first : Traced ω ε α) (following : α → Traced ω ε β) :
    (first >>= following).result = first.result >>= fun a => (following a).result := by
  obtain ⟨log, result⟩ := first
  cases result <;> rfl

theorem result_mapM (f : α → Traced ω ε β) (items : List α) :
    (items.mapM f).result = items.mapM fun a => (f a).result := by
  induction items with
  | nil => rfl
  | cons a items ih =>
    rw [List.mapM_cons, List.mapM_cons, result_bind]
    refine bind_congr ?_
    intro b
    rw [result_bind, ih]
    rfl

end Traced

namespace Wire

theorem NamespaceElement.trace_result (element : NamespaceElement) :
    element.trace.result = element.decode := by
  unfold trace
  rw [Traced.result_bind, Traced.lift]
  cases element.decode <;> rfl

theorem Namespace.decode_eq (ns : Namespace) :
    ns.decode = (do
      let elements ← ns.elements.mapM NamespaceElement.decode
      return ⟨ns.name, elements, decodeDocumentation ns.documentation⟩) := by
  unfold decode trace
  rw [Traced.result_bind, Traced.emit]
  show (ns.elements.mapM NamespaceElement.trace >>= _).result = _
  rw [Traced.result_bind, Traced.result_mapM, funext NamespaceElement.trace_result]
  rfl

theorem Compilation.decodeWith_eq (compilation : Compilation) (options : Options) :
    compilation.decodeWith options = (do
      let namespaces ← compilation.namespaces.mapM Namespace.decode
      return ⟨namespaces, []⟩) := by
  have namespaces :
      (compilation.namespaces.mapM Namespace.trace >>= fun namespaces =>
        (pure ⟨namespaces, []⟩ : Traced Event Fault WireTree.Compilation)).result =
      compilation.namespaces.mapM Namespace.decode >>= fun namespaces => .ok ⟨namespaces, []⟩ := by
    rw [Traced.result_bind, Traced.result_mapM]
    rfl
  unfold decodeWith trace
  rw [Traced.result_bind, Traced.emit]
  cases compilation.entryPoints.isEmpty with
  | true => exact namespaces
  | false => exact namespaces

end Wire

end WireTree
