import OpenchamiOperator.Api.Types

/-! # Status conditions

The functions of `apimeta` on lists of conditions, and the reasons of `internal/conditions`. -/

namespace OpenchamiOperator.Api

namespace Reason

def notConfigured : String := "NotConfigured"
def provisioning : String := "Provisioning"
def ready : String := "Ready"
def error : String := "Error"
def unreachable : String := "Unreachable"
def noEligibleNodes : String := "NoEligibleNodes"
def versionPinned : String := "VersionPinned"
def waitingForProbe : String := "WaitingForNetworkProbe"
def expirationImminent : String := "ExpirationImminent"
def expired : String := "Expired"
def awaitingCertificate : String := "AwaitingCertificate"
def notProgrammed : String := "NotProgrammed"
def awaitingTokensmith : String := "AwaitingTokensmith"
def awaitingServiceIdentity : String := "AwaitingServiceIdentity"
def missingCRD : String := "MissingCRD"
def configMapNotFound : String := "ConfigMapNotFound"
def invalidConfig : String := "InvalidConfig"

end Reason

/-- `apimeta.FindStatusCondition`. -/
def findStatusCondition (cs : List Condition) (t : ConditionType) : Option Condition :=
  cs.find? fun c => c.type = t

/-- `apimeta.IsStatusConditionTrue`. -/
def isStatusConditionTrue (cs : List Condition) (t : ConditionType) : Bool :=
  (findStatusCondition cs t).any fun c => c.status = .true

/-- `apimeta.SetStatusCondition`: overwrite the condition of that type, or append it. -/
def setStatusCondition : List Condition → Condition → List Condition
  | [], c => [c]
  | d :: cs, c => if d.type = c.type then c :: cs else d :: setStatusCondition cs c

theorem mem_setStatusCondition {c d : Condition} : ∀ {cs : List Condition},
    d ∈ setStatusCondition cs c → d = c ∨ d ∈ cs
  | [], h => by simpa [setStatusCondition] using h
  | e :: cs, h => by
    unfold setStatusCondition at h
    split_ifs at h
    · rcases List.mem_cons.mp h with h | h
      · exact Or.inl h
      · exact Or.inr (List.mem_cons_of_mem _ h)
    · rcases List.mem_cons.mp h with rfl | h
      · exact Or.inr (by simp)
      · rcases mem_setStatusCondition h with h | h
        · exact Or.inl h
        · exact Or.inr (List.mem_cons_of_mem _ h)

theorem findStatusCondition_set (c : Condition) (t : ConditionType) : ∀ cs : List Condition,
    findStatusCondition (setStatusCondition cs c) t =
      if c.type = t then some c else findStatusCondition cs t
  | [] => by
    unfold findStatusCondition setStatusCondition
    by_cases h : c.type = t <;> simp [h]
  | d :: cs => by
    have ih := findStatusCondition_set c t cs
    unfold findStatusCondition at ih ⊢
    unfold setStatusCondition
    by_cases hd : d.type = c.type
    · rw [if_pos hd]
      by_cases h : c.type = t
      · simp [h]
      · have hdt : d.type ≠ t := fun hdt => h (hd.symm.trans hdt)
        simp [h, hdt]
    · rw [if_neg hd, List.find?_cons, List.find?_cons, ih]
      by_cases hdt : d.type = t
      · have hct : c.type ≠ t := fun h => hd (hdt.trans h.symm)
        simp [hdt, hct]
      · simp [hdt]

/-- Set a condition of the object, stamped with its generation. -/
def ControlPlane.setCondition (cp : ControlPlane) (t : ConditionType) (s : ConditionStatus)
    (reason message : String) : ControlPlane :=
  { cp with status := { cp.status with
      conditions := setStatusCondition cp.status.conditions
        ⟨t, s, reason, message, cp.metadata.generation⟩ } }

end OpenchamiOperator.Api
