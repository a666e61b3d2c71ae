import PlanningProblem.Description.Basic
import PlanningProblem.Formula.Tree

/-!
# Descriptions as data

A description is written as a mapping with all its fields, objects as mappings
with a name and a type, and the goal as the datum of its formula or as null.
-/

namespace PlanningProblem

def Object.toDatum (object : Object) : Datum :=
  .mapping [("name", .text object.name), ("type", .text object.type)]

def Description.toDatum (description : Description) : Datum :=
  .mapping [
    ("name", .text description.name),
    ("domain", .text description.domain),
    ("objects", .sequence (description.objects.map Object.toDatum)),
    ("init", .sequence (description.init.map .text)),
    ("goal", (description.goal.map Formula.toDatum).getD .null)]

end PlanningProblem
