import GapObjects.Heap
import GapObjects.Copy
import GapObjects.CopySteps
import GapObjects.CopyTermination
import GapObjects.CopyCorrect
import GapObjects.CleanCorrect
import GapObjects.Printer
import GapObjects.PrinterSteps
import GapObjects.PrinterSafety
import GapObjects.PrinterCycles
import GapObjects.PrinterStack
import GapObjects.Regions
import GapObjects.SaveLoad
import GapObjects.Switch
import GapObjects.Sizes
import GapObjects.Clone
import GapObjects.Immutable
import GapObjects.CopyLaws
import GapObjects.Types
import GapObjects.ShallowCopy
