import QueryGate.Rule.Basic

/-! Rules combined for one argument: every slot has to pass, and a slot of alternatives passes if one of them
does. Without slots anything passes; without alternatives nothing does. -/
namespace QueryGate

inductive Slot
  | rule (r : Rule)
  | anyOf (rs : List Rule)

def Slot.passes : Slot → Arg → Bool
  | rule r, a => r.check a
  | anyOf rs, a => rs.any (·.check a)

inductive RuleSet
  | single (r : Rule)
  | all (slots : List Slot)

def RuleSet.passes : RuleSet → Arg → Bool
  | single r, a => r.check a
  | all slots, a => slots.all (·.passes a)

@[simp] theorem Slot.passes_anyOf_nil (a : Arg) : (Slot.anyOf []).passes a = false := rfl

@[simp] theorem RuleSet.passes_all_nil (a : Arg) : (RuleSet.all []).passes a = true := rfl

@[simp] theorem RuleSet.passes_all_cons (s : Slot) (slots : List Slot) (a : Arg) :
    (RuleSet.all (s :: slots)).passes a = (s.passes a && (RuleSet.all slots).passes a) := rfl

end QueryGate
