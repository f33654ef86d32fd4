/-! Results that may be errors. -/

namespace RuntimeBridge.Library

variable {Error : Type u} {α β : Type v}

theorem bind_eq_ok {first : Except Error α} {next : α → Except Error β}
    {result : β} :
    (first >>= next) = .ok result ↔
      ∃ value, first = .ok value ∧ next value = .ok result := by
  cases first with
  | error e =>
      constructor
      · intro h
        cases h
      · rintro ⟨value, h, _⟩
        cases h
  | ok value =>
      constructor
      · intro h
        exact ⟨value, rfl, h⟩
      · rintro ⟨_, h, hnext⟩
        cases h
        exact hnext

/-- A loop that throws what one of its passes throws. -/
theorem mapM_eq_ok_iff {γ : Type w} {run : γ → Except Error α}
    {inputs : List γ} :
    (∃ outputs, inputs.mapM run = .ok outputs) ↔
      ∀ input ∈ inputs, ∃ output, run input = .ok output := by
  induction inputs with
  | nil => exact iff_of_true ⟨[], rfl⟩ (List.forall_mem_nil _)
  | cons input rest ih =>
      rw [List.forall_mem_cons, ← ih]
      constructor
      · rintro ⟨outputs, h⟩
        rw [List.mapM_cons] at h
        obtain ⟨output, houtput, h⟩ := bind_eq_ok.mp h
        obtain ⟨others, hothers, -⟩ := bind_eq_ok.mp h
        exact ⟨⟨output, houtput⟩, ⟨others, hothers⟩⟩
      · rintro ⟨⟨output, houtput⟩, ⟨others, hothers⟩⟩
        refine ⟨output :: others, ?_⟩
        rw [List.mapM_cons]
        exact bind_eq_ok.mpr ⟨output, houtput,
          bind_eq_ok.mpr ⟨others, hothers, rfl⟩⟩

theorem mapM_eq_ok_map {γ : Type w} {run : γ → Except Error α}
    (value : γ → α) {inputs : List γ} (h : ∀ input ∈ inputs, run input = .ok (value input)) :
    inputs.mapM run = .ok (inputs.map value) := by
  induction inputs with
  | nil => rfl
  | cons input rest ih =>
      rw [List.forall_mem_cons] at h
      rw [List.mapM_cons, h.1, ih h.2]
      rfl

theorem mapM_eq_error {γ : Type w} {run : γ → Except Error α}
    {inputs : List γ} {e : Error} (h : inputs.mapM run = .error e) :
    ∃ input ∈ inputs, run input = .error e := by
  induction inputs with
  | nil => cases h
  | cons input rest ih =>
      rw [List.mapM_cons] at h
      cases hrun : run input with
      | error other =>
          rw [hrun] at h
          cases h
          exact ⟨input, List.mem_cons_self, hrun⟩
      | ok output =>
          cases hrest : rest.mapM run with
          | error other =>
              rw [hrun, hrest] at h
              cases h
              obtain ⟨found, hmem, hfound⟩ := ih hrest
              exact ⟨found, List.mem_cons_of_mem _ hmem, hfound⟩
          | ok outputs =>
              rw [hrun, hrest] at h
              cases h

theorem mem_of_mapM {γ : Type w} {run : γ → Except Error α} {inputs : List γ}
    {outputs : List α} {output : α} (h : inputs.mapM run = .ok outputs)
    (member : output ∈ outputs) :
    ∃ input ∈ inputs, run input = .ok output := by
  induction inputs generalizing outputs with
  | nil =>
      cases h
      cases member
  | cons input rest ih =>
      rw [List.mapM_cons] at h
      obtain ⟨first, hfirst, h⟩ := bind_eq_ok.mp h
      obtain ⟨others, hothers, h⟩ := bind_eq_ok.mp h
      cases h
      rcases List.mem_cons.mp member with rfl | hlater
      · exact ⟨input, List.mem_cons_self, hfirst⟩
      · obtain ⟨found, hmem, hfound⟩ := ih hothers hlater
        exact ⟨found, List.mem_cons_of_mem _ hmem, hfound⟩

/-- A second loop over the results of the first is one loop over its inputs. -/
theorem mapM_again {γ : Type w} {run : γ → Except Error α}
    {again : α → Except Error β} {direct : γ → Except Error β}
    {inputs : List γ} {outputs : List α} (h : inputs.mapM run = .ok outputs)
    (agrees : ∀ input output, run input = .ok output →
      again output = direct input) :
    outputs.mapM again = inputs.mapM direct := by
  induction inputs generalizing outputs with
  | nil =>
      cases h
      rfl
  | cons input rest ih =>
      rw [List.mapM_cons] at h
      obtain ⟨output, houtput, h⟩ := bind_eq_ok.mp h
      obtain ⟨others, hothers, h⟩ := bind_eq_ok.mp h
      cases h
      rw [List.mapM_cons, List.mapM_cons, agrees input output houtput,
        ih hothers]

end RuntimeBridge.Library
