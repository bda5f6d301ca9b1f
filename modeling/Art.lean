import Art.GraphBuilder
import Art.ClassTable.Basic
import Art.ClassTable.Snapshots
import Art.ClassTable.Refinement
import Art.ClassTable.StrongRoots
import Art.ClassTable.Lookup
import Art.FieldEntrypoints
import Art.Arm64Context
import Art.Arm64Aliasing
import Art.QuickMethodHeader
import Art.Membarrier
