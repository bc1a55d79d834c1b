import Docent.Completion.Backend
import Docent.Proofs.Except
import Docent.Settings.Load

/-!
# Settings that a completion can start from

Main statement: whatever document they come from, settings that were loaded name a known backend,
plan an attempt, and hold a floating-point delay.
-/

namespace Docent.Settings

/-- The backend is known, at least one attempt is planned, and the delay between attempts is a
floating-point number. -/
structure Usable (b : BackendSettings) : Prop where
  known : ∃ backend, Backend.ofSettings b = .ok backend
  attempts : 1 ≤ b.attempts
  delay : ∃ x, b.delay = .real x

theorem usable_default : Usable {} := ⟨⟨.program, rfl⟩, by decide, ⟨_, rfl⟩⟩

theorem mem_providers_of_providerOf {s : Section} {name : String}
    (h : providerOf s = .ok name) : name ∈ providers := by
  rw [providerOf] at h
  split at h
  · split at h
    · rename_i hmem
      cases h
      simpa using hmem
    · cases h
  · cases h

theorem ofSettings_of_mem_providers {b : BackendSettings} {name : String}
    (hmem : name ∈ providers) (hb : b.provider = .text name) :
    ∃ backend, Backend.ofSettings b = .ok backend := by
  simp only [providers, List.mem_cons, List.not_mem_nil, or_false] at hmem
  rw [Backend.ofSettings, hb]
  rcases hmem with rfl | rfl
  · exact ⟨.program, rfl⟩
  · exact ⟨.service, rfl⟩

theorem usable_of_backendOf {name : String} {s : Section} {b : BackendSettings}
    (hmem : name ∈ providers) (h : backendOf name s = .ok b) : Usable b := by
  obtain ⟨timeout, -, h⟩ := ok_of_bind h
  obtain ⟨attempts, -, h⟩ := ok_of_bind h
  obtain ⟨delay, -, h⟩ := ok_of_bind h
  cases h
  exact ⟨ofSettings_of_mem_providers hmem rfl, Int.le_max_left 1 attempts, ⟨delay, rfl⟩⟩

theorem usable_of_ofValue {v : Value} {s : Settings} (h : ofValue v = .ok s) :
    Usable s.backend := by
  obtain ⟨sections, -, h⟩ := ok_of_bind h
  obtain ⟨provider, hprovider, h⟩ := ok_of_bind h
  obtain ⟨backend, hbackend, h⟩ := ok_of_bind h
  cases h
  exact usable_of_backendOf (mem_providers_of_providerOf hprovider) hbackend

theorem usable_of_load {t : FileTree} {path key : String} {s : Settings}
    (h : (load t path key).result = .ok s) : Usable s.backend := by
  simp only [load] at h
  split at h
  · cases h
    exact usable_default
  · split at h
    · split at h
      · exact usable_of_ofValue h
      · cases h
    · cases h
      exact usable_default

end Docent.Settings
