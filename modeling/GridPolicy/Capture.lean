import GridPolicy.Document.Field

/-!
# Captured parameters

Nearly every policy needs the acting user, the logical path and the two
resources. A record of an event and the parameters of a direct call name them
differently, so each of the four has an order of places to look in. The first
place that gives a value decides, even if the value is empty: a hierarchy of
which nothing is left after its separators does so.
-/
namespace GridPolicy

/-- Which end of a resource hierarchy is meant: the root or the leaf. -/
inductive HierarchyEnd where
  | root
  | leaf
  deriving DecidableEq, Repr

/-- The resources of a hierarchy, from the root to the leaf. -/
def hierarchySegments (hierarchy : String) : List String :=
  (Text.pieces ';' hierarchy).filter fun s => s != ""

/-- The resource at one end of a hierarchy, empty if the hierarchy has none. -/
def hierarchyResource (hierarchy : String) : HierarchyEnd → String
  | .root => (hierarchySegments hierarchy).head?.getD ""
  | .leaf => (hierarchySegments hierarchy).getLast?.getD ""

structure Capture where
  userName : String
  logicalPath : String
  sourceResource : String
  destinationResource : String
  deriving DecidableEq, Repr

/-- A resource: named outright, or by a hierarchy of the call's keyword input,
or by a name there. -/
def captureResource (parameters : Document) (key hierarchyKey nameKey : String)
    (tag : HierarchyEnd) : String :=
  let input := (parameters.get? Key.condInput).getD .null
  ((parameters.filledField? key).or
    (((input.filledField? hierarchyKey).map (hierarchyResource · tag)).or
      (input.filledField? nameKey))).getD ""

/-- The four values that a document of parameters gives. -/
def Capture.ofParameters (parameters : Document) (tag : HierarchyEnd) : Capture where
  userName :=
    ((parameters.filledField? Key.userName).or
      ((parameters.get? Key.comm).bind (·.filledField? Key.userName))).getD ""
  logicalPath :=
    ((parameters.filledField? Key.logicalPath).or (parameters.filledField? "obj_path")).getD ""
  sourceResource :=
    captureResource parameters Key.sourceResource "resc_hier" "resc_name" tag
  destinationResource :=
    captureResource parameters Key.destinationResource "dest_resc_hier" "dest_resc_name" tag

end GridPolicy
