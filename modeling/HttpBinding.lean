import HttpBinding.Main
import HttpBinding.Path.Match
import HttpBinding.Proofs.Path.TrailingSlash
import HttpBinding.Proofs.Path.BasePath
import HttpBinding.Proofs.Config.Reloading
import HttpBinding.Proofs.Model.ClientPath
import HttpBinding.Proofs.Model.PathVariables
import HttpBinding.Workspace.Directory
import HttpBinding.Proofs.Model.LocalNames
import HttpBinding.Proofs.Identifier.SnakeForm
import HttpBinding.Proofs.Model.QueryNames
import HttpBinding.Proofs.Source.BreadthFirst
import HttpBinding.Proofs.Source.Position
import HttpBinding.Proofs.Source.References
import HttpBinding.Proofs.Source.Bundle
import HttpBinding.Proofs.Source.Rebundling
import HttpBinding.Proofs.Source.Layout
import HttpBinding.Proofs.Config.Namespace
import HttpBinding.Proofs.Config.Session
import HttpBinding.Proofs.Config.Strictness
import HttpBinding.Proofs.Config.Dotting
import HttpBinding.Proofs.Service.RoundTrip
import HttpBinding.Proofs.Config.Separator
import HttpBinding.Proofs.Command.Agreement
import HttpBinding.Proofs.Source.Onward
import HttpBinding.Proofs.Source.Lexing
import HttpBinding.Proofs.Source.FunctionItem
import HttpBinding.Proofs.Source.Extraction
import HttpBinding.Proofs.Source.TypeNames
import HttpBinding.Proofs.Model.FieldOrder
import HttpBinding.Proofs.Model.Labels
import HttpBinding.Proofs.Model.RouteOrder
import HttpBinding.Proofs.Identifier.NormalForm
import HttpBinding.Proofs.Model.FieldNames
import HttpBinding.Proofs.Source.LineIndex
import HttpBinding.Proofs.Config.Variables
