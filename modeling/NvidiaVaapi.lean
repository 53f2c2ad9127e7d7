import NvidiaVaapi.Arrays.ArrayRuns
import NvidiaVaapi.Arrays.PointerArray
import NvidiaVaapi.Av1.Agreement
import NvidiaVaapi.Av1.Bitstream
import NvidiaVaapi.Av1.BufferOrder
import NvidiaVaapi.Av1.CodedLossless
import NvidiaVaapi.Av1.IntervalIndex
import NvidiaVaapi.Av1.IntervalSearch
import NvidiaVaapi.Av1.IntervalShape
import NvidiaVaapi.Av1.IntervalTree
import NvidiaVaapi.Av1.ObuScan
import NvidiaVaapi.Av1.ObuSequences
import NvidiaVaapi.Av1.Picture
import NvidiaVaapi.Av1.PictureParameters
import NvidiaVaapi.Av1.PictureRuns
import NvidiaVaapi.Av1.Registration
import NvidiaVaapi.Av1.SkipMode
import NvidiaVaapi.Av1.TileLedger
import NvidiaVaapi.Av1.UniformTiles
import NvidiaVaapi.BufferPool.Blocks
import NvidiaVaapi.BufferPool.PoolRuns
import NvidiaVaapi.Codec.AppendableBuffer
import NvidiaVaapi.Configs.Calls
import NvidiaVaapi.Configs.Created
import NvidiaVaapi.Configs.DecodeFormats
import NvidiaVaapi.Configs.ProfileList
import NvidiaVaapi.Configs.Profiles
import NvidiaVaapi.Configs.SurfaceAttributes
import NvidiaVaapi.Conversion.Agreement
import NvidiaVaapi.Conversion.KernelRuns
import NvidiaVaapi.Conversion.Kernels
import NvidiaVaapi.Conversion.PathRuns
import NvidiaVaapi.Conversion.Paths
import NvidiaVaapi.Conversion.Pixel
import NvidiaVaapi.Conversion.Samples
import NvidiaVaapi.Conversion.Threads
import NvidiaVaapi.Conversion.WordArithmetic
import NvidiaVaapi.Direct.Allocation
import NvidiaVaapi.Direct.AllocationOwnership
import NvidiaVaapi.Direct.AllocationPaths
import NvidiaVaapi.Direct.Buffers
import NvidiaVaapi.Direct.ImageAccounts
import NvidiaVaapi.Direct.ImportOwnership
import NvidiaVaapi.Direct.ImportedImages
import NvidiaVaapi.Direct.RgbAllocation
import NvidiaVaapi.Driver.BasicInvariant
import NvidiaVaapi.Driver.BeginSections
import NvidiaVaapi.Driver.CallEffect
import NvidiaVaapi.Driver.CallMoves
import NvidiaVaapi.Driver.ClearingLists
import NvidiaVaapi.Driver.Completion
import NvidiaVaapi.Driver.Control
import NvidiaVaapi.Driver.DanglingTargets
import NvidiaVaapi.Driver.DestroyWaits
import NvidiaVaapi.Driver.EndSections
import NvidiaVaapi.Driver.Exclusive
import NvidiaVaapi.Driver.ExportExclusion
import NvidiaVaapi.Driver.FailedPictures
import NvidiaVaapi.Driver.FailureReports
import NvidiaVaapi.Driver.FirstDecode
import NvidiaVaapi.Driver.Generation
import NvidiaVaapi.Driver.ImageFlags
import NvidiaVaapi.Driver.ImageSections
import NvidiaVaapi.Driver.IndexSelection
import NvidiaVaapi.Driver.IndexWaits
import NvidiaVaapi.Driver.JobCustody
import NvidiaVaapi.Driver.JobDisposal
import NvidiaVaapi.Driver.JobLedger
import NvidiaVaapi.Driver.LiveTargets
import NvidiaVaapi.Driver.Machine
import NvidiaVaapi.Driver.OrphanFlags
import NvidiaVaapi.Driver.PictureCalls
import NvidiaVaapi.Driver.PictureIndex
import NvidiaVaapi.Driver.PictureMoves
import NvidiaVaapi.Driver.PictureStates
import NvidiaVaapi.Driver.ReferenceMasks
import NvidiaVaapi.Driver.RenderSections
import NvidiaVaapi.Driver.State
import NvidiaVaapi.Driver.StepEffect
import NvidiaVaapi.Driver.ThreadEffect
import NvidiaVaapi.H264.IntraFlag
import NvidiaVaapi.Hevc.PictureParameters
import NvidiaVaapi.Hevc.ReferenceOrder
import NvidiaVaapi.Hevc.ReferenceSets
import NvidiaVaapi.Hevc.SortReferenceSet
import NvidiaVaapi.HostBuffers.BufferCalls
import NvidiaVaapi.HostBuffers.Trimming
import NvidiaVaapi.Images.Objects
import NvidiaVaapi.Images.Pairing
import NvidiaVaapi.Jpeg.FrameBounds
import NvidiaVaapi.Jpeg.ReadBack
import NvidiaVaapi.Jpeg.Reconstruction
import NvidiaVaapi.Jpeg.RoundTrip
import NvidiaVaapi.Jpeg.Scans
import NvidiaVaapi.Jpeg.Segments
import NvidiaVaapi.Jpeg.Stream
import NvidiaVaapi.Lib.AvlTree
import NvidiaVaapi.Lib.CyclicSearch
import NvidiaVaapi.Lib.FixedArray
import NvidiaVaapi.Lib.JpegGrammar
import NvidiaVaapi.Lib.LabelledSystem
import NvidiaVaapi.Lib.Leb128
import NvidiaVaapi.Lib.LinkedList
import NvidiaVaapi.Lib.LinkedQueue
import NvidiaVaapi.Lib.NearestRank
import NvidiaVaapi.Lib.Overwrites
import NvidiaVaapi.Lib.Pieces
import NvidiaVaapi.Lib.Ptx
import NvidiaVaapi.Lib.PtxLaunch
import NvidiaVaapi.Lib.ResourcePrograms
import NvidiaVaapi.Lib.RingBuffer
import NvidiaVaapi.Lib.SlotTable
import NvidiaVaapi.Lib.Tally
import NvidiaVaapi.Lib.Vp8FrameHeader
import NvidiaVaapi.ObjectTable.FreeList
import NvidiaVaapi.ObjectTable.LiveObjects
import NvidiaVaapi.ObjectTable.Lookup
import NvidiaVaapi.ObjectTable.Representation
import NvidiaVaapi.ObjectTable.StaleIds
import NvidiaVaapi.ObjectTable.Table
import NvidiaVaapi.ObjectTable.TableRuns
import NvidiaVaapi.Queue.QueueRuns
import NvidiaVaapi.Queue.QueueSections
import NvidiaVaapi.Queue.ResolveQueue
import NvidiaVaapi.Readback.ImageCopies
import NvidiaVaapi.SecurityClear.Clear
import NvidiaVaapi.SecurityClear.Coverage
import NvidiaVaapi.SecurityClear.ScratchReservation
import NvidiaVaapi.Slices.SliceAccounting
import NvidiaVaapi.Slices.SliceData
import NvidiaVaapi.Slices.SliceEmission
import NvidiaVaapi.Slices.SliceParameters
import NvidiaVaapi.Slices.VP8Frames
import NvidiaVaapi.Stats.BackingImages
import NvidiaVaapi.Stats.BackingTotals
import NvidiaVaapi.Stats.Histogram
import NvidiaVaapi.Surface.Allocation
import NvidiaVaapi.Surface.BorrowProtection
import NvidiaVaapi.Surface.Borrowing
import NvidiaVaapi.Surface.Cache
import NvidiaVaapi.Surface.CacheFrames
import NvidiaVaapi.Surface.CacheInvariant
import NvidiaVaapi.Surface.CacheLimits
import NvidiaVaapi.Surface.CachePruning
import NvidiaVaapi.Surface.CacheReleases
import NvidiaVaapi.Surface.CacheRuns
import NvidiaVaapi.Surface.CacheSteps
import NvidiaVaapi.Surface.CacheWrites
import NvidiaVaapi.Surface.Calls
import NvidiaVaapi.Surface.CopyRanges
import NvidiaVaapi.Surface.Descriptors
import NvidiaVaapi.Surface.DetachedCache
import NvidiaVaapi.Surface.DetachedSteps
import NvidiaVaapi.Surface.Formats
import NvidiaVaapi.Surface.ImageList
import NvidiaVaapi.Surface.Images
import NvidiaVaapi.Surface.Import
import NvidiaVaapi.Surface.ImportBounds
import NvidiaVaapi.Surface.ImportParsing
import NvidiaVaapi.Surface.ImportRanges
import NvidiaVaapi.Surface.ImportSteps
import NvidiaVaapi.Surface.Layout
import NvidiaVaapi.Surface.LayoutSoundness
import NvidiaVaapi.Surface.RangeFrames
import NvidiaVaapi.Surface.RangeRuns
import NvidiaVaapi.Surface.Ranges
import NvidiaVaapi.Surface.Realising
import NvidiaVaapi.Surface.ReimportAgreement
import NvidiaVaapi.Surface.SurfaceRuns
import NvidiaVaapi.Surface.TrimmedCache
import NvidiaVaapi.VideoProc.Scratch
import NvidiaVaapi.VideoProc.ScratchRuns
