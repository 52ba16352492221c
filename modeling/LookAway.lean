import LookAway.Weights.Config
import LookAway.Weights.Tensor
import LookAway.Weights.Block
import LookAway.Weights.BlockSpec
import LookAway.Weights.Loss
import LookAway.Weights.MeanPreservation
import LookAway.Weights.NonInterference
import LookAway.Weights.FreqDecay
import LookAway.Weights.Admission
import LookAway.Weights.Rationing
import LookAway.Weights.Neutral
import LookAway.Weights.Divergence
import LookAway.Base.BinaryFloat
import LookAway.Base.Control
import LookAway.Base.Dict
import LookAway.Base.Quantile
import LookAway.Base.Packing
import LookAway.Base.RelativeEntropy
import LookAway.Base.RoundRobin
import LookAway.Base.SparseVector
import LookAway.Base.Loop
import LookAway.Base.Script
import LookAway.Base.WorkPool
import LookAway.Base.Decimal
import LookAway.Base.Json
import LookAway.Base.Utf8
import LookAway.Base.JsonText
import LookAway.Base.JsonWellFormed
import LookAway.Base.KeyedLog
import LookAway.Base.FileTree
import LookAway.Base.RealPath
import LookAway.Data.Rows
import LookAway.Data.Dir
import LookAway.Data.BuildTrainset
import LookAway.Data.NegativeViews
import LookAway.Data.Launch
import LookAway.Data.ConcatenatedReader
import LookAway.Data.TarExtraction
import LookAway.Data.Generations
import LookAway.Data.ImportRelease
import LookAway.Data.Copies
import LookAway.Data.ImportSafety
import LookAway.Data.Parquet
import LookAway.Data.Progress
import LookAway.Data.Digest
import LookAway.Data.Imaging
import LookAway.Data.Geometry
import LookAway.Data.Worker
import LookAway.Data.Scheduling
import LookAway.Data.NegativeWindow
import LookAway.Data.PairGeometry
import LookAway.Priors.Dump
import LookAway.Priors.Frozen
import LookAway.Priors.FreqTable
import LookAway.Priors.FreqSpec
import LookAway.Priors.DumpSpec
import LookAway.Priors.Runs
import LookAway.Priors.Soundness
import LookAway.Priors.Provenance
import LookAway.Priors.Acceptance
import LookAway.Priors.Dataset
import LookAway.Priors.RowIdentity
import LookAway.Priors.Sharding
import LookAway.Priors.Retry
import LookAway.Priors.Gates
import LookAway.Priors.FreqLoader
import LookAway.Priors.FreqRoundTrip
import LookAway.Priors.FreqGate
import LookAway.Eval.Infer
import LookAway.Eval.Checkpoint
import LookAway.Eval.Resume
import LookAway.Eval.Compaction
import LookAway.Eval.Judge
import LookAway.Eval.Restarts
import LookAway.Eval.Accuracy
import LookAway.Eval.Failures
import LookAway.Eval.RuleGrades
import LookAway.Eval.TextSearch
import LookAway.Eval.OptionLetters
import LookAway.Eval.PopeExtraction
import LookAway.Teacher.Messages
import LookAway.Teacher.Inputs
import LookAway.Teacher.Forward
import LookAway.Teacher.Causal
import LookAway.Teacher.Alignment
import LookAway.Teacher.Modes
import LookAway.Teacher.Requirements
import LookAway.Training.Partitions
import LookAway.Training.MicroBatches
import LookAway.Training.LogProbs
import LookAway.Training.Dispatch
import LookAway.Training.AgentLoop
import LookAway.Training.Rollout
import LookAway.Training.OldLogProbs
import LookAway.Training.Balance
import LookAway.Training.ToolAgentLoop
import LookAway.Training.OnPolicy
import LookAway.Training.WeightedUpdates
import LookAway.Training.Teachers
