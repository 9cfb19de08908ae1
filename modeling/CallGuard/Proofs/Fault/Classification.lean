import CallGuard.Proofs.Fault

/-! What the classifiers make of an error, read off its wrappers. To look for a cause again and
again comes to an end, and meets just the links of the chain (`link?_eq`). The end of a context in
the middle of all wrappers shows if nothing is around it, or if the wrapper right around it is not
transparent; what is around that does not matter (`isRetryable_eq_false_iff`). Of an exchange the
failure itself tells, and what is worth another exchange is worth another attempt (`classified`). -/

namespace CallGuard.Fault

/-! ### Causes -/

/-- The cause of an error, for a transparent wrapper that of what it holds. -/
def source? : Fault → Option Fault
  | wrap _ cause => some cause
  | transport (.request _ failure) => some (leaf failure.message)
  | transport (.decode _ error) => some (leaf error.message)
  | transport (.cancelled e) => some (context e)
  | retryTerminal held => held.source?
  | retryExhausted _ last => some last
  | guarded held => held.source?
  | _ => none

/-- The error so many causes on, if there are as many. -/
def link? : Nat → Fault → Option Fault
  | 0, f => some f
  | n + 1, f => f.source?.bind (link? n)

theorem causes_eq (f : Fault) : f.causes = f.source?.elim [] chain := by
  induction f with
  | transport e => cases e <;> rfl
  | retryTerminal held ih => exact ih
  | guarded held ih => exact ih
  | _ => rfl

/-- From cause to cause, one goes through the links of the chain. -/
theorem link?_eq (n : Nat) (f : Fault) : link? n f = f.chain[n]? := by
  induction n generalizing f with
  | zero => rfl
  | succ n ih =>
    rw [link?, chain, List.getElem?_cons_succ, causes_eq]
    cases f.source? with
    | none => rfl
    | some cause => exact ih cause

/-! ### Wrappers -/

/-- What an error holds next, as its cause or transparently. -/
def held? : Fault → Option Fault
  | wrap _ cause => some cause
  | transport (.request _ failure) => some (leaf failure.message)
  | transport (.decode _ error) => some (leaf error.message)
  | transport (.cancelled e) => some (context e)
  | retryCancelled e => some (context e)
  | retryTerminal held => some held
  | retryExhausted _ last => some last
  | guarded held => some held
  | _ => none

/-- Whether an error shows the message and the cause of what it holds. -/
def isTransparent : Fault → Bool
  | retryCancelled _ | retryTerminal _ | guarded _ => true
  | _ => false

/-- The error in the middle of all wrappers. -/
def innermost : Fault → Fault
  | wrap _ cause => cause.innermost
  | transport (.request _ failure) => leaf failure.message
  | transport (.decode _ error) => leaf error.message
  | transport (.cancelled e) => context e
  | retryCancelled e => context e
  | retryTerminal held => held.innermost
  | retryExhausted _ last => last.innermost
  | guarded held => held.innermost
  | f => f

/-- An error is the end of a context, or a wrapper in it that is not transparent holds that. -/
def Shows (f : Fault) (e : ContextError) : Prop :=
  f = context e ∨
    ∃ holder ∈ f :: f.contents, holder.held? = some (context e) ∧ holder.isTransparent = false

variable {f held : Fault} {e : ContextError}

theorem shows_context_iff {why : ContextError} : (context why).Shows e ↔ why = e := by
  simp [Shows, contents, held?]

theorem ne_context (hf : f.isContext = false) : f ≠ context e := by
  rintro rfl
  cases hf

/-- Through a wrapper that is not transparent all shows that it holds. -/
theorem shows_iff_of_cause (hf : f.isContext = false) (ht : f.isTransparent = false)
    (hh : f.held? = some held) (hc : f.contents = held :: held.contents) :
    f.Shows e ↔ held.Shows e := by
  simp [Shows, ne_context hf, ht, hh, hc]

/-- A transparent wrapper is not seen, and so no end of a context right inside it. -/
theorem shows_iff_of_transparent (hf : f.isContext = false) (ht : f.isTransparent = true)
    (hc : f.contents = held :: held.contents) :
    f.Shows e ↔ held.isContext = false ∧ held.Shows e := by
  cases hh : held.isContext with
  | true =>
    obtain ⟨why, rfl⟩ := (isContext_iff held).1 hh
    simp [Shows, ne_context hf, ht, hc, held?, contents]
  | false => simp [Shows, ne_context hf, ne_context hh, ht, hc]

/-! ### Classifiers -/

/-- What holds of something held holds of a wrapper that is not transparent. -/
theorem declined_iff_of_cause
    (ih : held.isRetryable = false ↔ ∃ e, held.innermost = context e ∧ held.Shows e)
    (hf : f.isContext = false) (ht : f.isTransparent = false) (hh : f.held? = some held)
    (hc : f.contents = held :: held.contents) (ha : f.causes = held :: held.causes)
    (hi : f.innermost = held.innermost) :
    f.isRetryable = false ↔ ∃ e, f.innermost = context e ∧ f.Shows e := by
  rw [isRetryable_of_causes hf ha, ih, hi]
  simp only [shows_iff_of_cause hf ht hh hc]

/-- So it does of a transparent one, unless that is the end of a context. -/
theorem declined_iff_of_transparent
    (ih : held.isRetryable = false ↔ ∃ e, held.innermost = context e ∧ held.Shows e)
    (hf : f.isContext = false) (ht : f.isTransparent = true)
    (hc : f.contents = held :: held.contents) (ha : f.causes = held.causes)
    (hi : f.innermost = held.innermost) :
    f.isRetryable = false ↔ ∃ e, f.innermost = context e ∧ f.Shows e := by
  simp only [shows_iff_of_transparent hf ht hc]
  cases hh : held.isContext with
  | true => simp [isRetryable_of_veiling hf ha hh]
  | false =>
    rw [isRetryable_of_transparent hf ha hh, ih, hi]
    simp only [true_and]

/-- An error is not worth another attempt just if it shows the end of a context that is in the
middle of it. -/
theorem isRetryable_eq_false_iff (f : Fault) :
    f.isRetryable = false ↔ ∃ e, f.innermost = context e ∧ f.Shows e := by
  induction f with
  | wrap m cause ih => exact declined_iff_of_cause ih rfl rfl rfl rfl rfl rfl
  | retryExhausted n last ih => exact declined_iff_of_cause ih rfl rfl rfl rfl rfl rfl
  | retryTerminal held ih => exact declined_iff_of_transparent ih rfl rfl rfl rfl rfl
  | guarded held ih => exact declined_iff_of_transparent ih rfl rfl rfl rfl rfl
  | context why => simp [isRetryable, chain, isContext, innermost, shows_context_iff]
  | retryCancelled why =>
    simp [isRetryable, chain, causes, isContext, Shows, contents, held?, isTransparent]
  | transport t =>
    cases t <;> simp [isRetryable, chain, causes, isContext, innermost, Shows, contents, held?,
      isTransparent]
  | leaf m => simp [isRetryable, chain, causes, isContext, innermost]
  | invalidConfig => simp [isRetryable, chain, causes, isContext, innermost]
  | refused why => simp [isRetryable, chain, causes, isContext, innermost]

/-- What the classifiers make of an error. -/
structure Classified (f : Fault) : Prop where
  /-- From cause to cause, one goes through the links of the chain and no further. -/
  links : ∀ n, link? n f = f.chain[n]?
  ends : ∀ n, f.chain.length ≤ n → link? n f = none
  /-- An error is not worth another attempt just if it is the end of a context, or one in the
  middle of it is held by a wrapper that is not transparent. -/
  declined_iff : f.isRetryable = false ↔ ∃ e, f.innermost = context e ∧ (f = context e ∨
    ∃ holder ∈ f :: f.contents, holder.held? = some (context e) ∧ holder.isTransparent = false)
  /-- A failed exchange is worth another after an error of the server, or if the request failed
  on its way. -/
  exchange_iff : ∀ t, f = transport t → (f.isTransportRetryable = true ↔
    (∃ url code, t = .status url code ∧ 500 ≤ code) ∨
      ∃ url failure, t = .request url failure ∧ failure.isRetryable = true)
  others : (∀ t, f ≠ transport t) → f.isTransportRetryable = f.isRetryable
  implies : f.isTransportRetryable = true → f.isRetryable = true

theorem isRetryable_exchange_iff (t : TransportError) : t.isRetryable = true ↔
    (∃ url code, t = .status url code ∧ 500 ≤ code) ∨
      ∃ url failure, t = .request url failure ∧ failure.isRetryable = true := by
  constructor
  · intro h
    cases t with
    | status url code => exact .inl ⟨url, code, rfl, of_decide_eq_true h⟩
    | request url failure => exact .inr ⟨url, failure, rfl, h⟩
    | invalidUrl | decode | cancelled => cases h
  · rintro (⟨url, code, rfl, h⟩ | ⟨url, failure, rfl, h⟩)
    · exact decide_eq_true h
    · exact h

/-- No failed exchange that is worth another shows the end of a context. -/
theorem isRetryable_of_exchange {t : TransportError} (h : t.isRetryable = true) :
    (transport t).isRetryable = true := by
  cases t with
  | cancelled e => cases h
  | _ => rfl

/-- So all errors are classified. -/
theorem classified (f : Fault) : f.Classified where
  links n := link?_eq n f
  ends n hn := by rw [link?_eq, List.getElem?_eq_none hn]
  declined_iff := isRetryable_eq_false_iff f
  exchange_iff t ht := by
    subst ht
    exact isRetryable_exchange_iff t
  others hne := by
    cases f with
    | transport t => exact absurd rfl (hne t)
    | _ => rfl
  implies h := by
    cases f with
    | transport t => exact isRetryable_of_exchange h
    | _ => exact h

end CallGuard.Fault
