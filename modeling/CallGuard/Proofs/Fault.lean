import CallGuard.Fault

/-! Ends of contexts inside other errors. What an error is made of is more than its chain: a
transparent wrapper shows what it holds, which is then no link itself. So the end of a context
that such a wrapper holds cannot be told from the chain, and the error passes for one worth
another attempt, whatever is around the wrapper (`isRetryable_iff`). -/

namespace CallGuard.Fault

/-- Everything an error holds, be it as its cause or transparently, outermost first. -/
def contents : Fault → List Fault
  | wrap _ cause => cause :: cause.contents
  | transport (.request _ failure) => [leaf failure.message]
  | transport (.decode _ error) => [leaf error.message]
  | transport (.cancelled e) => [context e]
  | retryCancelled e => [context e]
  | retryTerminal held => held :: held.contents
  | retryExhausted _ last => last :: last.contents
  | guarded held => held :: held.contents
  | _ => []

/-- Whether what an error holds next, transparently, is the end of a context. -/
def veils : Fault → Bool
  | retryCancelled _ => true
  | retryTerminal held | guarded held => held.isContext
  | _ => false

/-- Whether there is the end of a context in an error. -/
def EndsContext (f : Fault) : Prop := ∃ g ∈ f :: f.contents, g.isContext = true

/-- Whether the end of a context in an error is held transparently. -/
def Veiled (f : Fault) : Prop := ∃ g ∈ f :: f.contents, g.veils = true

/-! ### Chains -/

theorem isContext_iff (f : Fault) : f.isContext = true ↔ ∃ e, f = context e := by
  cases f <;> simp [isContext]

/-- A wrapper that holds its cause is as good as the cause. -/
theorem isRetryable_of_causes {f cause : Fault} (hf : f.isContext = false)
    (hc : f.causes = cause :: cause.causes) : f.isRetryable = cause.isRetryable := by
  simp [isRetryable, chain, hf, hc]

/-- A transparent wrapper is as good as what it holds, unless that is the end of a context. -/
theorem isRetryable_of_transparent {f held : Fault} (hf : f.isContext = false)
    (hc : f.causes = held.causes) (hh : held.isContext = false) :
    f.isRetryable = held.isRetryable := by
  simp [isRetryable, chain, hf, hc, hh]

/-- The end of a context has no cause, so one held transparently leaves no trace. -/
theorem isRetryable_of_veiling {f held : Fault} (hf : f.isContext = false)
    (hc : f.causes = held.causes) (hh : held.isContext = true) : f.isRetryable = true := by
  obtain ⟨e, rfl⟩ := (isContext_iff held).1 hh
  simp [isRetryable, chain, hf, hc, causes]

/-! ### Layers -/

theorem endsContext_of_contents {f held : Fault} (hf : f.isContext = false)
    (hc : f.contents = held :: held.contents) : f.EndsContext ↔ held.EndsContext := by
  simp [EndsContext, hf, hc]

theorem veiled_of_contents {f held : Fault} (hf : f.veils = false)
    (hc : f.contents = held :: held.contents) : f.Veiled ↔ held.Veiled := by
  simp [Veiled, hf, hc]

theorem Veiled.of_veils {f : Fault} (hf : f.veils = true) : f.Veiled :=
  ⟨f, List.mem_cons_self, hf⟩

/-- An error that holds nothing is a context's end or has none in it. -/
theorem isRetryable_iff_of_bare {f : Fault} (hc : f.contents = []) (ha : f.causes = [])
    (hv : f.veils = false) : f.isRetryable = true ↔ ¬ f.EndsContext ∨ f.Veiled := by
  simp [isRetryable, chain, EndsContext, Veiled, hc, ha, hv]

/-- What holds of something held holds of a wrapper through which it is seen. -/
theorem isRetryable_iff_of_held {f held : Fault}
    (ih : held.isRetryable = true ↔ ¬ held.EndsContext ∨ held.Veiled)
    (hr : f.isRetryable = held.isRetryable) (hf : f.isContext = false) (hv : f.veils = false)
    (hc : f.contents = held :: held.contents) :
    f.isRetryable = true ↔ ¬ f.EndsContext ∨ f.Veiled := by
  rw [hr, ih, endsContext_of_contents hf hc, veiled_of_contents hv hc]

/-- So it does for transparent wrappers, which may veil the end of a context. -/
theorem isRetryable_iff_of_transparent {f held : Fault}
    (ih : held.isRetryable = true ↔ ¬ held.EndsContext ∨ held.Veiled)
    (hf : f.isContext = false) (ha : f.causes = held.causes) (hv : f.veils = held.isContext)
    (hc : f.contents = held :: held.contents) :
    f.isRetryable = true ↔ ¬ f.EndsContext ∨ f.Veiled := by
  cases hh : held.isContext with
  | true =>
    rw [hh] at hv
    exact iff_of_true (isRetryable_of_veiling hf ha hh) (.inr (.of_veils hv))
  | false =>
    rw [hh] at hv
    exact isRetryable_iff_of_held ih (isRetryable_of_transparent hf ha hh) hf hv hc

/-- An error is taken to be worth another attempt just if there is no end of a context in it,
or that end is held transparently. -/
theorem isRetryable_iff (f : Fault) : f.isRetryable = true ↔ ¬ f.EndsContext ∨ f.Veiled := by
  induction f with
  | wrap m cause ih =>
    exact isRetryable_iff_of_held ih (isRetryable_of_causes rfl rfl) rfl rfl rfl
  | retryExhausted n last ih =>
    exact isRetryable_iff_of_held ih (isRetryable_of_causes rfl rfl) rfl rfl rfl
  | retryTerminal held ih => exact isRetryable_iff_of_transparent ih rfl rfl rfl rfl
  | guarded held ih => exact isRetryable_iff_of_transparent ih rfl rfl rfl rfl
  | retryCancelled e => exact iff_of_true rfl (.inr (.of_veils rfl))
  | transport e =>
    cases e <;>
      simp [isRetryable, chain, causes, EndsContext, Veiled, contents, isContext, veils]
  | leaf m => exact isRetryable_iff_of_bare rfl rfl rfl
  | context e => exact isRetryable_iff_of_bare rfl rfl rfl
  | invalidConfig => exact isRetryable_iff_of_bare rfl rfl rfl
  | refused why => exact isRetryable_iff_of_bare rfl rfl rfl

end CallGuard.Fault
