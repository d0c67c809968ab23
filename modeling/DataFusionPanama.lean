import DataFusionPanama.Base.Run
import DataFusionPanama.Base.Binding
import DataFusionPanama.Base.Threads
import DataFusionPanama.Engine
import DataFusionPanama.Native.Ffi
import DataFusionPanama.Native.NullPointers
import DataFusionPanama.SortKeys
import DataFusionPanama.SortExact
import DataFusionPanama.SortQuotes
import DataFusionPanama.Native.Sort
import DataFusionPanama.Arrival
import DataFusionPanama.Results
import DataFusionPanama.Collect
import DataFusionPanama.Lifecycle
import DataFusionPanama.Java.Cleaning
import DataFusionPanama.Java.Closing
import DataFusionPanama.Reachability
import DataFusionPanama.Refine
import DataFusionPanama.Library
import DataFusionPanama.Outcomes
import DataFusionPanama.Readers
import DataFusionPanama.Correspondence
import DataFusionPanama.Heap
import DataFusionPanama.Delivery
import DataFusionPanama.Invisible
import DataFusionPanama.Base.Pick
import DataFusionPanama.Locality
import DataFusionPanama.Interleaving
import DataFusionPanama.Survival
import DataFusionPanama.Base.Foreign
import DataFusionPanama.Exports
import DataFusionPanama.Base.Scope
import DataFusionPanama.Scoped
